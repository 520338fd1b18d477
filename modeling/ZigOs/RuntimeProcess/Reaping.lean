/-
This file keeps the books of the processes that end. Beside a run it writes
down every record that an ending leaves in the table and every record that a
wait or a sweep takes out of it, and shows that the two agree: a record is
taken out once, by the parent, and the oldest one that a wait admits is taken
first. That needs every process to have a parent that can wait for it. `init`
has none, and a parent that ended before it got the child can still be put to
sleep by a wait, which makes its own record disappear.
-/

import ZigOs.RuntimeProcess.Lineage

namespace ZigOs.RuntimeProcess

open Scan Table Call Function SameNode

/-! ### Records -/

/-- What the status of an ended process tells that no later call changes. -/
structure Obituary where
  handle : Nat
  pid : Nat
  state : State
  exitStatus : Nat
  faultVector : Nat
  faultAddress : Nat
  deriving DecidableEq

def Status.obituary (status : Status) : Obituary :=
  { handle := status.handle
    pid := status.pid
    state := status.state
    exitStatus := status.exitStatus
    faultVector := status.faultVector
    faultAddress := status.faultAddress }

/-- The record that an ended process leaves in its slot. -/
def Process.record (process : Process) : Option Obituary :=
  if process.used && process.terminal then
    some {
      handle := process.handle
      pid := process.pid
      state := process.state
      exitStatus := process.exitStatus
      faultVector := process.faultVector
      faultAddress := process.faultAddress }
  else none

/-- The number of slots that hold the record. -/
def Table.holders (table : Table) (obituary : Obituary) : Nat :=
  countIndex maximumProcesses fun slot => (table.processes slot).record == some obituary

variable {process : Process}

theorem record_eq_none :
    process.record = none ↔ process.used = false ∨ process.terminal = false := by
  unfold Process.record
  cases process.used <;> cases process.terminal <;> simp

theorem record_of_unused (unused : process.used = false) :
    process.record = none := record_eq_none.mpr (.inl unused)

theorem record_of_active (active : process.terminal = false) :
    process.record = none := record_eq_none.mpr (.inr active)

theorem exists_record (used : process.used = true)
    (ended : process.terminal = true) : ∃ obituary, process.record = some obituary := by
  unfold Process.record
  rw [used, ended]
  exact ⟨_, rfl⟩

theorem used_of_record {obituary : Obituary}
    (record : process.record = some obituary) : process.used = true ∧ process.terminal = true := by
  unfold Process.record at record
  split at record
  · rename_i ended
    simpa using ended
  · cases record

/-- The entry keeps its record, if it has one, and the place of the record. -/
structure SameRecord (before after : Process) : Prop where
  record : after.record = before.record
  place : before.record ≠ none → after.terminalSequence = before.terminalSequence

theorem SameRecord.refl (process : Process) : SameRecord process process := ⟨rfl, fun _ => rfl⟩

theorem SameRecord.trans {first second third : Process} (start : SameRecord first second)
    (finish : SameRecord second third) : SameRecord first third := by
  refine ⟨finish.record.trans start.record, fun held => ?_⟩
  exact (finish.place (start.record ▸ held)).trans (start.place held)

theorem sameRecord_of_none {before after : Process} (wasNone : before.record = none)
    (isNone : after.record = none) : SameRecord before after :=
  ⟨isNone.trans wasNone.symm, fun held => absurd wasNone held⟩

theorem sameRecord_of_ending {before after : Process} (used : after.used = before.used)
    (handle : after.handle = before.handle) (pid : after.pid = before.pid)
    (ending : after.ending = before.ending) : SameRecord before after := by
  have terminal := terminal_of_ending ending
  simp only [Process.ending, Ending.mk.injEq] at ending
  obtain ⟨state, exitStatus, faultVector, faultAddress, sequence⟩ := ending
  refine ⟨?_, fun _ => sequence⟩
  unfold Process.record
  rw [used, terminal, handle, pid, state, exitStatus, faultVector, faultAddress]

theorem SameNode.sameRecord {before after : Process} (same : SameNode before after) :
    SameRecord before after := by
  cases now : before.terminal with
  | true =>
    exact sameRecord_of_ending (congrArg Links.used same.links) (congrArg Links.handle same.links)
      (congrArg Links.pid same.links) (same.kept now)
  | false => exact sameRecord_of_none (record_of_active now) (record_of_active (same.terminal.trans now))

/-! ### What a call does to the records -/

/-- The records that appeared between two tables, in slot order. -/
def newlyEnded (before after : Table) : List Obituary :=
  listed maximumProcesses fun slot =>
    if (before.processes slot).record = none then (after.processes slot).record else none

/-- The records whose slots were freed between two tables, in slot order. -/
def freed (before after : Table) : List Obituary :=
  listed maximumProcesses fun slot =>
    if (after.processes slot).used then none else (before.processes slot).record

/-- No record appeared, and one that went away went with its process. -/
structure Clears (before after : Table) : Prop where
  slots : ∀ slot, (after.processes slot).used = (before.processes slot).used ∧
      SameRecord (before.processes slot) (after.processes slot) ∨
    (after.processes slot).used = false
  sequence : after.nextTerminalSequence = before.nextTerminalSequence

/-- All records are as they were. -/
structure Quiet (before after : Table) : Prop where
  slots : ∀ slot, SameRecord (before.processes slot) (after.processes slot)
  sequence : after.nextTerminalSequence = before.nextTerminalSequence

/-- One process ended and left its record; it was not `init`. -/
structure Ends (before after : Table) (slot : Nat) (obituary : Obituary) : Prop where
  below : slot < maximumProcesses
  mortal : slot ≠ 0
  alive : (before.processes slot).record = none
  record : (after.processes slot).record = some obituary
  place : (after.processes slot).terminalSequence = before.nextTerminalSequence
  others : ∀ other, other ≠ slot → SameRecord (before.processes other) (after.processes other)
  sequence : after.nextTerminalSequence = nextNonzero 64 before.nextTerminalSequence

instance : Std.Refl Clears where
  refl _ := ⟨fun _ => Or.inl ⟨rfl, SameRecord.refl _⟩, rfl⟩

instance : Std.Refl Quiet where
  refl _ := ⟨fun _ => SameRecord.refl _, rfl⟩

instance : IsTrans Table Quiet where
  trans _ _ _ start finish :=
    ⟨fun slot => (start.slots slot).trans (finish.slots slot), finish.sequence.trans start.sequence⟩

variable {before : Table}

theorem SameTree.quiet {after : Table} (same : SameTree before after) : Quiet before after :=
  ⟨fun slot => (same.nodes slot).sameRecord, same.sequence⟩

variable {first second third : Table} {slot : Nat}

theorem Ends.after_quiet {obituary : Obituary} (quiet : Quiet first second)
    (ends : Ends second third slot obituary) : Ends first third slot obituary := by
  refine ⟨ends.below, ends.mortal, ?_, ends.record, ends.place.trans quiet.sequence,
    fun other different => (quiet.slots other).trans (ends.others other different), ?_⟩
  · rw [← (quiet.slots slot).record, ends.alive]
  · rw [ends.sequence, quiet.sequence]

theorem newlyEnded_eq_nil {after : Table}
    (none_new : ∀ slot, (before.processes slot).record = none → (after.processes slot).record = none)
    :
    newlyEnded before after = [] := by
  refine listed_eq_nil fun slot _ => ?_
  split
  · rename_i alive
    exact none_new slot alive
  · rfl

theorem Clears.newlyEnded {after : Table} (clears : Clears before after) :
    newlyEnded before after = [] := by
  refine newlyEnded_eq_nil fun slot alive => ?_
  rcases clears.slots slot with ⟨-, same⟩ | gone
  · rw [same.record, alive]
  · exact record_of_unused gone

theorem Quiet.newlyEnded {after : Table} (quiet : Quiet before after) :
    newlyEnded before after = [] :=
  newlyEnded_eq_nil fun slot alive => (quiet.slots slot).record.trans alive

theorem Quiet.freed {before after : Table} (quiet : Quiet before after) : freed before after = [] := by
  refine listed_eq_nil fun slot _ => ?_
  split
  · rfl
  · rename_i gone
    rw [← (quiet.slots slot).record]
    exact record_of_unused (by simpa using gone)

theorem Ends.newlyEnded {after : Table} {obituary : Obituary}
    (ends : Ends before after slot obituary) : newlyEnded before after = [obituary] := by
  refine listed_single ends.below ?_ fun other _ different => ?_
  · rw [if_pos ends.alive, ends.record]
  · split
    · rename_i alive
      rw [(ends.others other different).record, alive]
    · rfl

/-! ### The books -/

/-- What ended and what was handed to a parent so far, in order. -/
structure Log where
  ended : List Obituary := []
  reaped : List Obituary := []

/-- The books agree with the table: a record was handed over or is still held, and the sequence
number of a process counts the processes that ended up to it. -/
structure Booked (table : Table) (log : Log) : Prop where
  balance : ∀ obituary,
    log.ended.count obituary = log.reaped.count obituary + table.holders obituary
  sequence : table.nextTerminalSequence = log.ended.length + 1
  placed : ∀ slot < maximumProcesses, ∀ obituary, (table.processes slot).record = some obituary →
    0 < (table.processes slot).terminalSequence ∧
      log.ended[(table.processes slot).terminalSequence - 1]? = some obituary
  apart : ∀ first < maximumProcesses, ∀ second < maximumProcesses,
    (table.processes first).record ≠ none → (table.processes second).record ≠ none →
      (table.processes first).terminalSequence = (table.processes second).terminalSequence →
        first = second
  spared : (table.processes 0).record = none

variable {table : Table} {log : Log}

theorem Booked.place_le (booked : Booked table log) (below : slot < maximumProcesses)
    (held : (table.processes slot).record ≠ none) :
    (table.processes slot).terminalSequence ≤ log.ended.length := by
  obtain ⟨obituary, record⟩ := Option.ne_none_iff_exists'.mp held
  obtain ⟨positive, placed⟩ := booked.placed slot below obituary record
  have inside := (List.getElem?_eq_some_iff.mp placed).1
  omega

/-- The records that a call takes out are the ones it hands over. -/
theorem Booked.clears {after : Table} (booked : Booked before log) (clears : Clears before after) :
    Booked after { log with reaped := log.reaped ++ freed before after } := by
  have held {slot : Nat} (record : (after.processes slot).record ≠ none) :
      SameRecord (before.processes slot) (after.processes slot) :=
    (clears.slots slot).elim And.right fun gone => absurd (record_of_unused gone) record
  have wasHeld {slot : Nat} (record : (after.processes slot).record ≠ none) :
      (before.processes slot).record ≠ none := (held record).record ▸ record
  have place {slot : Nat} (record : (after.processes slot).record ≠ none) :=
    (held record).place (wasHeld record)
  refine ⟨fun obituary => ?_, clears.sequence.trans booked.sequence, fun slot below obituary record => ?_,
    fun first firstBelow second secondBelow firstHeld secondHeld same => ?_, ?_⟩
  · have shared : before.holders obituary =
        (freed before after).count obituary + after.holders obituary := by
      rw [freed, count_listed]
      refine countIndex_add _ _ _ fun slot _ => ?_
      rcases clears.slots slot with ⟨used, same⟩ | gone
      · rw [used, same.record]
        cases isUsed : (before.processes slot).used with
        | true => simp
        | false => simp [record_of_unused isUsed]
      · simp [gone, record_of_unused gone]
    rw [booked.balance obituary, shared, List.count_append]
    omega
  · have isHeld : (after.processes slot).record ≠ none := by simp [record]
    rw [place isHeld]
    exact booked.placed slot below obituary ((held isHeld).record ▸ record)
  · rw [place firstHeld, place secondHeld] at same
    exact booked.apart first firstBelow second secondBelow (wasHeld firstHeld) (wasHeld secondHeld) same
  · rcases clears.slots 0 with ⟨-, same⟩ | gone
    · rw [same.record, booked.spared]
    · exact record_of_unused gone

theorem Booked.quiet {after : Table} (booked : Booked before log)
    (quiet : Quiet before after) : Booked after log := by
  have held {slot : Nat} (record : (after.processes slot).record ≠ none) :
      (before.processes slot).record ≠ none := (quiet.slots slot).record ▸ record
  have place {slot : Nat} (record : (after.processes slot).record ≠ none) :=
    (quiet.slots slot).place (held record)
  refine ⟨fun obituary => ?_, quiet.sequence.trans booked.sequence, fun slot below obituary record => ?_,
    fun first firstBelow second secondBelow firstHeld secondHeld same => ?_, ?_⟩
  · rw [booked.balance obituary]
    refine congrArg _ (countIndex_congr fun slot _ => ?_)
    rw [(quiet.slots slot).record]
  · rw [place (by simp [record])]
    exact booked.placed slot below obituary ((quiet.slots slot).record ▸ record)
  · rw [place firstHeld, place secondHeld] at same
    exact booked.apart first firstBelow second secondBelow (held firstHeld) (held secondHeld) same
  · rw [(quiet.slots 0).record, booked.spared]

/-- An ending is the last one on the list, as long as the sequence numbers last. -/
theorem Booked.ends {after : Table} {obituary : Obituary} (booked : Booked before log)
    (ends : Ends before after slot obituary) (few : log.ended.length + 1 < 2 ^ 64 - 1) :
    Booked after { log with ended := log.ended ++ [obituary] } := by
  have place : (after.processes slot).terminalSequence = log.ended.length + 1 :=
    ends.place.trans booked.sequence
  have older {other : Nat} (below : other < maximumProcesses) (different : other ≠ slot)
      (held : (after.processes other).record ≠ none) :
      (before.processes other).record ≠ none ∧
        (after.processes other).terminalSequence = (before.processes other).terminalSequence ∧
        (after.processes other).terminalSequence ≤ log.ended.length := by
    have same := ends.others other different
    have wasHeld : (before.processes other).record ≠ none := same.record ▸ held
    exact ⟨wasHeld, same.place wasHeld, (same.place wasHeld).symm ▸ booked.place_le below wasHeld⟩
  refine ⟨fun other => ?_, ?_, fun other below found record => ?_,
    fun first firstBelow second secondBelow firstHeld secondHeld same => ?_, ?_⟩
  · have change := countIndex_change (fun slot => (before.processes slot).record == some other)
      (fun slot => (after.processes slot).record == some other) ends.below fun elsewhere _ different => by
        rw [(ends.others elsewhere different).record]
    have balance := booked.balance other
    rw [ends.alive, ends.record, Option.some_beq_some] at change
    change (log.ended ++ [obituary]).count other = log.reaped.count other + after.holders other
    unfold holders at balance ⊢
    rw [List.count_append, List.count_singleton]
    cases here : obituary == other with
    | true =>
      rw [here] at change
      rw [if_pos rfl]
      change _ + 0 = _ + 1 at change
      omega
    | false =>
      rw [here] at change
      rw [if_neg (by decide)]
      change _ + 0 = _ + 0 at change
      omega
  · rw [ends.sequence, booked.sequence, List.length_append, List.length_singleton]
    unfold nextNonzero wrapIncrement
    split <;> omega
  · obtain rfl | here := eq_or_ne other slot
    · rw [place, Nat.add_sub_cancel, List.getElem?_append_right le_rfl, Nat.sub_self]
      exact ⟨Nat.succ_pos _, ends.record.symm.trans record⟩
    · obtain ⟨-, samePlace, inside⟩ := older below here (by simp [record])
      obtain ⟨positive, placed⟩ :=
        booked.placed other below found ((ends.others other here).record ▸ record)
      rw [← samePlace] at positive placed
      refine ⟨positive, ?_⟩
      rwa [List.getElem?_append_left (by omega)]
  · by_cases firstHere : first = slot
    · by_cases secondHere : second = slot
      · rw [firstHere, secondHere]
      · have inside := (older secondBelow secondHere secondHeld).2.2
        rw [← same, firstHere, place] at inside
        omega
    · obtain ⟨firstWas, firstPlace, inside⟩ := older firstBelow firstHere firstHeld
      by_cases secondHere : second = slot
      · rw [same, secondHere, place] at inside
        omega
      · obtain ⟨secondWas, secondPlace, -⟩ := older secondBelow secondHere secondHeld
        rw [firstPlace, secondPlace] at same
        exact booked.apart first firstBelow second secondBelow firstWas secondWas same
  · rw [(ends.others 0 (Ne.symm ends.mortal)).record, booked.spared]

/-! ### Calls that end processes -/

/-- Nothing happened to the records, or one process ended. -/
def Advances (before after : Table) : Prop :=
  Quiet before after ∨ ∃ slot obituary, Ends before after slot obituary

instance : Std.Refl Advances where
  refl _ := Or.inl (refl _)

theorem Advances.after_quiet (quiet : Quiet first second)
    (advances : Advances second third) : Advances first third := by
  rcases advances with same | ⟨slot, obituary, ends⟩
  · exact .inl (Trans.trans quiet same)
  · exact .inr ⟨slot, obituary, ends.after_quiet quiet⟩

theorem Booked.advances {after : Table} (booked : Booked before log)
    (advances : Advances before after)
    (few : (log.ended ++ newlyEnded before after).length < 2 ^ 64 - 1) :
    Booked after { log with ended := log.ended ++ newlyEnded before after } := by
  rcases advances with quiet | ⟨slot, obituary, ends⟩
  · rw [quiet.newlyEnded, List.append_nil]
    exact booked.quiet quiet
  · rw [ends.newlyEnded] at few ⊢
    rw [List.length_append, List.length_singleton] at few
    exact booked.ends ends few

/-- The end of a process: it is marked, its children go to `init`, and its parent wakes. -/
theorem terminate_ends {dying : Table} {handle : Nat} (sound : TreeSound table)
    (resolved : table.resolve handle = .ok slot) (ends : EndsAt table dying slot)
    (alive : (table.processes slot).terminal = false) (mortal : handle ≠ table.initHandle)
    (place : (dying.processes slot).terminalSequence = table.nextTerminalSequence)
    (sequence : dying.nextTerminalSequence = nextNonzero 64 table.nextTerminalSequence) :
    Advances table ((dying.reparentChildren slot).wakeParent slot) := by
  obtain ⟨below, used, -⟩ := resolve_ok resolved
  have entry := reparentChildren_entry slot (ends.resolve_init sound)
  dsimp only at entry
  have woken := (wakeParent_sameTree (dying.reparentChildren slot) slot).quiet
  have adopted (other : Nat) : SameRecord (dying.processes other)
      (((dying.reparentChildren slot).wakeParent slot).processes other) := by
    obtain ⟨sameUsed, -, handle, pid, ending, -⟩ := entry other
    exact (sameRecord_of_ending sameUsed handle pid ending).trans (woken.slots other)
  obtain ⟨obituary, record⟩ :=
    exists_record ((congrArg Links.used ends.links).trans used) ends.ended
  have held : (dying.processes slot).record ≠ none := by simp [record]
  refine .inr ⟨slot, obituary, below, ?_, record_of_active alive, (adopted slot).record.trans record,
    ((adopted slot).place held).trans place, fun other different => ?_, ?_⟩
  · rintro rfl
    exact mortal (sound.handle_init resolved)
  · have moved := adopted other
    rwa [ends.others other different] at moved
  · rw [woken.sequence, ← sequence]
    unfold reparentChildren
    split <;> rfl

section Endings

variable {table : Table} {handle : Nat}

theorem exit_advances (status : Nat) (sound : TreeSound table) (mortal : handle ≠ table.initHandle) :
    KeepsFrom Advances table (exit handle status) := by
  refine keepsFrom_state (keepsFrom_lift fun slot resolved =>
    keepsFrom_failWhen fun alive => keepsFrom_change ?_)
  refine terminate_ends sound resolved (endsAt_of_update
    ((table.processes slot).exited status table.nextTerminalSequence) ?_ rfl rfl rfl)
    (not_terminal alive) mortal ?_ rfl
  · simp [Table.recordTerminalSequence, Table.modify, Process.exited]
  · simp [Table.recordTerminalSequence, Table.modify]

theorem fault_advances (vector address : Nat) (sound : TreeSound table)
    (mortal : handle ≠ table.initHandle) :
    KeepsFrom Advances table (fault handle vector address) := by
  refine keepsFrom_state (keepsFrom_lift fun slot resolved =>
    keepsFrom_failWhen fun alive => keepsFrom_change ?_)
  refine terminate_ends sound resolved (endsAt_of_update
    ((table.processes slot).crashed vector address table.nextTerminalSequence) ?_ rfl rfl rfl)
    (not_terminal alive) mortal ?_ rfl
  · simp [Table.recordTerminalSequence, Table.modify, Process.crashed]
  · simp [Table.recordTerminalSequence, Table.modify]

/-- A quiet first step does not matter to what the rest of a call does. -/
theorem keepsFrom_quiet_bind {Value : Type} {step : Table → Table} {next : Unit → TableCall Value}
    (same : SameTree table (step table)) (rest : KeepsFrom Advances (step table) (next ())) :
    KeepsFrom Advances table (Call.change step >>= next) :=
  Advances.after_quiet same.quiet rest

theorem accountTick_advances (sound : TreeSound table)
    (mortal : TickEnds table handle → handle ≠ table.initHandle) :
    KeepsFrom Advances table (accountTick handle) := by
  refine keepsFrom_state (keepsFrom_lift fun slot resolved =>
    keepsFrom_failWhen fun running => ?_)
  let counted := table.modify slot fun process =>
    { process with cpuTicks := wrapIncrement 64 process.cpuTicks }
  have same : SameTree table counted := sameTree_modify (of_ending rfl rfl)
  refine keepsFrom_quiet_bind same (keepsFrom_state ?_)
  split
  · rename_i spent
    have ticks : TickEnds table handle := by
      refine ⟨slot, resolved, not_not.mp running, ?_⟩
      rwa [modify_self] at spent
    have ends := exit_advances 0x7F000001 (same.treeSound sound) (mortal ticks)
    unfold KeepsFrom at ends ⊢
    rw [bind_apply]
    split <;> (rename_i outcome; rwa [outcome] at ends)
  · refine keepsFrom_quiet_bind ?_ (keepsFrom_pure _)
    exact sameTree_modify (of_ending rfl rfl)

/-- The signal does not kill `init`. -/
def SignalSparesInit (table : Table) (sender target signal : Nat) : Prop :=
  signal = 9 → Delivers table sender target → target ≠ table.initHandle

variable {sender signal : Nat}

theorem sendSignal_advances {target : Nat} (sound : TreeSound table)
    (spares : SignalSparesInit table sender target signal) :
    KeepsFrom Advances table (sendSignal sender target signal) := by
  refine keepsFrom_failWhen fun _ => keepsFrom_state ?_
  refine keepsFrom_lift fun senderSlot fromSender => keepsFrom_lift fun slot resolved => ?_
  refine keepsFrom_failWhen fun alive => keepsFrom_failWhen fun permitted => ?_
  have same : SameTree table { table.modify slot (Process.addPending signal) with
      totalSignals := wrapIncrement 64 table.totalSignals } :=
    sameTree_of_update rfl (of_ending rfl rfl) rfl rfl
  refine keepsFrom_quiet_bind same ?_
  refine keepsFrom_ite (fun kill => ?_) fun _ => keepsFrom_ite (fun _ => ?_) fun _ =>
    keepsFrom_ite (fun _ => ?_) fun _ => ?_
  · refine exit_advances _ (same.treeSound sound) (spares kill ⟨senderSlot, slot, fromSender, resolved,
      not_terminal alive, ?_⟩)
    rwa [not_and_or, not_not, not_not] at permitted
  · exact .inl (stop_sameTree target _).quiet
  · exact .inl (continueProcess_sameTree target _).quiet
  · exact keepsFrom_change (.inl (sameTree_modify (interrupt_sameNode _)).quiet)

/-- The same for a group signal, for each member at the moment its signal is delivered. -/
def GroupSignalSparesInit (sender signal : Nat) : Table → List Nat → Prop
  | _, [] => True
  | table, target :: rest =>
    SignalSparesInit table sender target signal ∧
      ∀ after, Table.sendSignal sender target signal table = (.ok (), after) →
        GroupSignalSparesInit sender signal after rest

/-- The records of the processes that a group signal ends, one after the other. -/
def signalEndings (sender signal : Nat) : Table → List Nat → List Obituary
  | _, [] => []
  | table, target :: rest =>
    match Table.sendSignal sender target signal table with
    | (.ok _, after) => newlyEnded table after ++ signalEndings sender signal after rest
    | (.error _, after) => newlyEnded table after

theorem SignalSparesInit.orderly {sender target signal : Nat}
    (spares : SignalSparesInit table sender target signal) :
    SignalsOrderly table sender target signal :=
  fun kill delivers _ _ isInit => absurd isInit (spares kill delivers)

theorem signalEach_booked (targets : List Nat) (sound : TreeSound table) (booked : Booked table log)
    (spares : GroupSignalSparesInit sender signal table targets)
    (few : (log.ended ++ signalEndings sender signal table targets).length < 2 ^ 64 - 1) :
    Booked (signalEach sender signal targets table).2
      { log with ended := log.ended ++ signalEndings sender signal table targets } := by
  induction targets generalizing table log with
  | nil => simpa [signalEndings, signalEach] using booked
  | cons target rest hypothesis =>
    have advances := sendSignal_advances sound spares.1
    have kept := sendSignal_tree spares.1.orderly sound
    unfold KeepsFrom at advances
    rw [signalEach, bind_apply]
    unfold signalEndings at few ⊢
    rcases outcome : Table.sendSignal sender target signal table with ⟨failure | done, after⟩
    · rw [outcome] at advances few
      exact booked.advances advances few
    · rw [outcome] at advances few kept
      dsimp only at few ⊢
      rw [← List.append_assoc] at few ⊢
      refine hypothesis kept (booked.advances advances ?_) (spares.2 after outcome) few
      rw [List.length_append] at few
      exact (Nat.le_add_right _ _).trans_lt few

end Endings

/-! ### Calls that reap -/

/-- What a wait hands to its caller. -/
def returned : Except Error (Option Status) → List Obituary
  | .ok (some status) => [status.obituary]
  | _ => []

/-- The entry kept its record, its parent and its place. -/
structure Untouched (before after : Process) : Prop where
  used : after.used = before.used
  parent : after.parentSlot = before.parentSlot
  handle : after.handle = before.handle
  pid : after.pid = before.pid
  ending : after.ending = before.ending

theorem Untouched.refl (process : Process) : Untouched process process := ⟨rfl, rfl, rfl, rfl, rfl⟩

theorem Untouched.trans {first second third : Process} (start : Untouched first second)
    (finish : Untouched second third) : Untouched first third :=
  ⟨finish.used.trans start.used, finish.parent.trans start.parent, finish.handle.trans start.handle,
    finish.pid.trans start.pid, finish.ending.trans start.ending⟩

theorem Untouched.sameRecord {before after : Process} (same : Untouched before after) :
    SameRecord before after := sameRecord_of_ending same.used same.handle same.pid same.ending

/-- The slot holds an ended child of the parent. -/
def EndedChild (table : Table) (parentSlot slot : Nat) : Prop :=
  (table.processes slot).used = true ∧ (table.processes slot).parentSlot = parentSlot ∧
    (table.processes slot).terminal = true

theorem Untouched.endedChild {after : Table}
    (same : Untouched (before.processes slot) (after.processes slot)) (parentSlot : Nat) :
    EndedChild after parentSlot slot ↔ EndedChild before parentSlot slot := by
  unfold EndedChild
  rw [same.used, same.parent, terminal_of_ending same.ending]

/-- The call took the record of an ended child and freed its slot. -/
structure Takes (table after : Table) (parentSlot slot : Nat) (status : Status) : Prop where
  child : (table.processes slot).parentSlot = parentSlot
  record : (table.processes slot).record = some status.obituary
  gone : (after.processes slot).used = false
  others : ∀ other, other ≠ slot → Untouched (table.processes other) (after.processes other)
  sequence : after.nextTerminalSequence = table.nextTerminalSequence

theorem Takes.clears {after : Table} {parentSlot : Nat} {status : Status}
    (takes : Takes table after parentSlot slot status) : Clears table after := by
  refine ⟨fun other => ?_, takes.sequence⟩
  by_cases here : other = slot
  · exact .inr (here ▸ takes.gone)
  · have same := takes.others other here
    exact .inl ⟨same.used, same.sameRecord⟩

theorem Takes.freed {table after : Table} {parentSlot slot : Nat} {status : Status}
    (takes : Takes table after parentSlot slot status) (below : slot < maximumProcesses) :
    freed table after = [status.obituary] := by
  refine listed_single below ?_ fun other _ different => ?_
  · rw [takes.gone]
    exact takes.record
  · split
    · rfl
    · rename_i unused
      rw [(takes.others other different).used] at unused
      exact record_of_unused (by simpa using unused)

variable {target : Option Nat} {parent group : Nat}

section Reap

variable {table : Table} {parentSlot slot : Nat}

/-- The status of an ended process. -/
def Process.status (process : Process) : Status :=
  { handle := process.handle
    pid := process.pid
    ppid := process.ppid
    state := process.state
    exitStatus := process.exitStatus
    faultVector := process.faultVector
    faultAddress := process.faultAddress
    cpuTicks := process.cpuTicks
    syscallCount := process.syscallCount }

theorem reapSlot_takes (ended : EndedChild table parentSlot slot) (apart : parentSlot ≠ slot) :
    ∃ after, reapSlot parentSlot slot table = (.ok (table.processes slot).status, after) ∧
      Takes table after parentSlot slot (table.processes slot).status := by
  obtain ⟨used, child, terminal⟩ := ended
  refine ⟨{ table.reaped parentSlot slot with totalReaped := wrapIncrement 64 table.totalReaped },
    ?_, child, ?_, ?_, fun other different => ?_, rfl⟩
  · simp only [reapSlot, bind_state, bind_failWhen, used, child, terminal]
    rw [if_neg (by simp), if_neg (by decide)]
    rfl
  · unfold Process.record
    rw [used, terminal]
    rfl
  · change ((table.reaped parentSlot slot).processes slot).used = false
    rw [reaped_self table apart]
  · obtain ⟨sameUsed, -, handle, pid, -, parent, ending, -⟩ := reaped_other table parentSlot different
    exact ⟨sameUsed, parent, handle, pid, ending⟩

/-- An ended child is not its own parent. -/
theorem TreeSound.apart_of_ended (sound : TreeSound table) (parentBelow : parentSlot < maximumProcesses)
    (below : slot < maximumProcesses) (ended : EndedChild table parentSlot slot) :
    parentSlot ≠ slot := by
  obtain ⟨used, child, -⟩ := ended
  have nonroot : slot ≠ 0 := by
    rintro rfl
    exact ne_invalidSlot parentBelow (child.symm.trans sound.root.2.2)
  exact child ▸ sound.apart below used nonroot

/-- A process with a child has not ended. -/
theorem TreeSound.alive_of_hasChild (sound : TreeSound table) (below : parentSlot < maximumProcesses)
    {filter : Process → Bool} (found : table.hasChild parentSlot filter = true) :
    (table.processes parentSlot).terminal = false := by
  obtain ⟨child, first⟩ := Option.isSome_iff_exists.mp found
  have isChild := firstIndex_test first
  simp only [Table.isChild, Bool.and_eq_true, beq_iff_eq] at isChild
  by_contra ended
  have missed := countIndex_eq_zero.mp (sound.childless below (.inr (by simpa using ended))) child
    (firstIndex_lt first)
  simp [isChild.1.1, isChild.1.2] at missed

/-- A wait that finds no ended child leaves the records alone. -/
theorem blockOnChild_sameTree (sound : TreeSound table) (below : parentSlot < maximumProcesses)
    (filter : Process → Bool) (nonblocking : Bool) (target : Nat) (group : Bool) :
    Yields (fun result after => SameTree table after ∧ returned result = []) table ((do
      failWhen (table.hasChild parentSlot filter = false) .notChild
      Call.change fun table =>
        if nonblocking then table else table.modify parentSlot (blockOnChild target group)
      return none) : TableCall (Option Status)) := by
  refine yields_failWhen (fun _ => ⟨refl _, rfl⟩) fun found => ?_
  refine yields_change (yields_pure ⟨?_, rfl⟩)
  split
  · exact refl _
  · have alive := sound.alive_of_hasChild below (by simpa using found)
    exact sameTree_modify (of_active rfl alive rfl)

theorem waitCandidate_ended (found : table.waitCandidate parentSlot target = some slot) :
    slot < maximumProcesses ∧ EndedChild table parentSlot slot ∧
      targetFilter target (table.processes slot) = true := by
  have split_test {filter : Process → Bool}
      (test : (table.isChild parentSlot filter slot && (table.processes slot).terminal) = true) :
      EndedChild table parentSlot slot ∧ filter (table.processes slot) = true := by
    simp only [Table.isChild, Bool.and_eq_true, beq_iff_eq] at test
    exact ⟨⟨test.1.1.1, test.1.1.2, test.2⟩, test.1.2⟩
  refine ⟨waitCandidate_lt found, ?_⟩
  cases target with
  | some target => exact split_test (firstIndex_test found)
  | none => exact split_test (leastIndex_eq_some found).2.1

theorem earliestTerminal_ended {filter : Process → Bool}
    (found : table.earliestTerminal parentSlot filter = some slot) :
    slot < maximumProcesses ∧ EndedChild table parentSlot slot ∧
      filter (table.processes slot) = true := by
  obtain ⟨below, test, -⟩ := leastIndex_eq_some found
  simp only [Table.isChild, Bool.and_eq_true, beq_iff_eq] at test
  exact ⟨below, ⟨test.1.1.1, test.1.1.2, test.2⟩, test.1.2⟩

theorem wait_of_candidate (nonblocking : Bool) (sound : TreeSound table)
    (resolved : table.resolve parent = .ok parentSlot)
    (found : table.waitCandidate parentSlot target = some slot) :
    ∃ after, wait parent target nonblocking table = (.ok (some (table.processes slot).status), after) ∧
      Takes table after parentSlot slot (table.processes slot).status := by
  obtain ⟨below, ended, -⟩ := waitCandidate_ended found
  have apart := sound.apart_of_ended (resolve_ok resolved).1 below ended
  obtain ⟨after, outcome, takes⟩ := reapSlot_takes ended apart
  refine ⟨after, ?_, takes⟩
  simp only [wait, bind_state, resolved, bind_lift_ok, found]
  rw [bind_of_ok outcome]
  rfl

theorem waitGroup_of_earliest (nonblocking : Bool) (real : group ≠ 0) (sound : TreeSound table)
    (resolved : table.resolve parent = .ok parentSlot)
    (found : table.earliestTerminal parentSlot (groupFilter group) = some slot) :
    ∃ after, waitGroup parent group nonblocking table =
        (.ok (some (table.processes slot).status), after) ∧
      Takes table after parentSlot slot (table.processes slot).status := by
  obtain ⟨below, ended, -⟩ := earliestTerminal_ended found
  have apart := sound.apart_of_ended (resolve_ok resolved).1 below ended
  obtain ⟨after, outcome, takes⟩ := reapSlot_takes ended apart
  refine ⟨after, ?_, takes⟩
  simp only [waitGroup, bind_failWhen, if_neg real, bind_state, resolved,
    bind_lift_ok, found]
  rw [bind_of_ok outcome]
  rfl

/-- What a call took out of the slots is what it returns. -/
def HandsOver (table : Table) (result : Except Error (Option Status)) (after : Table) : Prop :=
  Clears table after ∧ freed table after = returned result

theorem handsOver_of_sameTree {after : Table} {result : Except Error (Option Status)}
    (same : SameTree table after) (nothing : returned result = []) : HandsOver table result after := by
  refine ⟨⟨fun slot => .inl ⟨congrArg Links.used (same.nodes slot).links, ?_⟩, same.sequence⟩, ?_⟩
  · exact (same.nodes slot).sameRecord
  · rw [nothing, same.quiet.freed]

theorem wait_handsOver (sound : TreeSound table) (parent : Nat) (target : Option Nat)
    (nonblocking : Bool) : Yields (HandsOver table) table (wait parent target nonblocking) := by
  refine yields_state (yields_lift (fun _ _ => ?_) fun parentSlot resolved => ?_)
  · exact handsOver_of_sameTree (refl _) rfl
  · cases found : table.waitCandidate parentSlot target with
    | some slot =>
      obtain ⟨below, ended, -⟩ := waitCandidate_ended found
      obtain ⟨after, outcome, takes⟩ :=
        reapSlot_takes ended (sound.apart_of_ended (resolve_ok resolved).1 below ended)
      change HandsOver table (Call.run (reapSlot parentSlot slot >>= _) table).1 _
      rw [bind_of_ok outcome]
      exact ⟨takes.clears, takes.freed below⟩
    | none =>
      refine (blockOnChild_sameTree sound (resolve_ok resolved).1 _ nonblocking _ _).imp ?_
      exact fun _ _ => fun ⟨same, nothing⟩ => handsOver_of_sameTree same nothing

theorem waitGroup_handsOver (sound : TreeSound table) (parent group : Nat) (nonblocking : Bool) :
    Yields (HandsOver table) table (waitGroup parent group nonblocking) := by
  refine yields_failWhen (fun _ => ?_) fun _ =>
    yields_state (yields_lift (fun _ _ => ?_) fun parentSlot resolved => ?_)
  · exact handsOver_of_sameTree (refl _) rfl
  · exact handsOver_of_sameTree (refl _) rfl
  · cases found : table.earliestTerminal parentSlot (groupFilter group) with
    | some slot =>
      obtain ⟨below, ended, -⟩ := earliestTerminal_ended found
      obtain ⟨after, outcome, takes⟩ :=
        reapSlot_takes ended (sound.apart_of_ended (resolve_ok resolved).1 below ended)
      change HandsOver table (Call.run (reapSlot parentSlot slot >>= _) table).1 _
      rw [bind_of_ok outcome]
      exact ⟨takes.clears, takes.freed below⟩
    | none =>
      refine (blockOnChild_sameTree sound (resolve_ok resolved).1 _ nonblocking _ _).imp ?_
      exact fun _ _ => fun ⟨same, nothing⟩ => handsOver_of_sameTree same nothing

/-- A sweep over some slots frees the ended children among them and nothing else. -/
structure Sweeps (table after : Table) (parentSlot : Nat) (slots : List Nat) : Prop where
  gone : ∀ slot ∈ slots, EndedChild table parentSlot slot → (after.processes slot).used = false
  others : ∀ slot, slot ∉ slots ∨ ¬ EndedChild table parentSlot slot →
    Untouched (table.processes slot) (after.processes slot)
  sequence : after.nextTerminalSequence = table.nextTerminalSequence

theorem Sweeps.clears {after : Table} {slots : List Nat} (sweeps : Sweeps table after parentSlot slots) :
    Clears table after := by
  refine ⟨fun slot => ?_, sweeps.sequence⟩
  by_cases swept : slot ∈ slots ∧ EndedChild table parentSlot slot
  · exact .inr (sweeps.gone slot swept.1 swept.2)
  · have same := sweeps.others slot (not_and_or.mp swept)
    exact .inl ⟨same.used, same.sameRecord⟩

instance (table : Table) (parentSlot slot : Nat) : Decidable (EndedChild table parentSlot slot) :=
  inferInstanceAs (Decidable (_ ∧ _))

theorem reapEach_sweeps (slots : List Nat)
    (apart : ∀ slot ∈ slots, EndedChild table parentSlot slot → parentSlot ≠ slot) :
    ∃ count after, reapEach parentSlot slots table = (.ok count, after) ∧
      Sweeps table after parentSlot slots := by
  induction slots generalizing table with
  | nil => exact ⟨0, table, rfl, nofun, fun _ _ => Untouched.refl _, rfl⟩
  | cons slot rest hypothesis =>
    have later {other : Nat} (member : other ∈ rest) : other ∈ slot :: rest :=
      List.mem_cons_of_mem _ member
    simp only [reapEach, bind_state]
    by_cases ended : EndedChild table parentSlot slot
    · obtain ⟨middle, outcome, takes⟩ := reapSlot_takes ended (apart slot List.mem_cons_self ended)
      have still {other : Nat} (different : other ≠ slot) :=
        (takes.others other different).endedChild parentSlot
      have swept : ¬ EndedChild middle parentSlot slot := fun again =>
        absurd (again.1.symm.trans takes.gone) (by decide)
      have ne {other : Nat} (again : EndedChild middle parentSlot other) : other ≠ slot := by
        rintro rfl
        exact swept again
      obtain ⟨count, after, rests, sweeps⟩ := @hypothesis middle
        fun other member again => apart other (later member) ((still (ne again)).mp again)
      refine ⟨count + 1, after, ?_, fun other member isEnded => ?_, fun other spared => ?_,
        sweeps.sequence.trans takes.sequence⟩
      · rw [if_neg (by simp [ended.1, ended.2.1, ended.2.2]), bind_of_ok outcome,
          bind_of_ok rests]
        rfl
      · obtain rfl | here := eq_or_ne other slot
        · rw [(sweeps.others other (.inr swept)).used, takes.gone]
        · exact sweeps.gone other ((List.mem_cons.mp member).resolve_left here)
            ((still here).mpr isEnded)
      · have here : other ≠ slot := by
          rintro rfl
          exact spared.elim (fun outside => outside List.mem_cons_self) fun alive => alive ended
        refine (takes.others other here).trans (sweeps.others other ?_)
        exact spared.imp (fun outside member => outside (later member))
          fun alive again => alive ((still here).mp again)
    · obtain ⟨count, after, rests, sweeps⟩ := hypothesis
        fun other member => apart other (later member)
      refine ⟨count, after, ?_, fun other member isEnded => ?_, fun other spared => ?_,
        sweeps.sequence⟩
      · rw [if_pos ?_]
        · exact rests
        · simp only [EndedChild, not_and_or] at ended
          simpa using ended
      · refine sweeps.gone other ((List.mem_cons.mp member).resolve_left ?_) isEnded
        rintro rfl
        exact ended isEnded
      · exact sweeps.others other (spared.imp_left fun outside member => outside (later member))

theorem reapTerminalChildren_sweeps (sound : TreeSound table)
    (resolved : table.resolve parent = .ok parentSlot) :
    ∃ count after, reapTerminalChildren parent table = (.ok count, after) ∧
      Sweeps table after parentSlot (List.range maximumProcesses) := by
  have parentBelow := (resolve_ok resolved).1
  obtain ⟨count, after, outcome, sweeps⟩ := reapEach_sweeps (List.range maximumProcesses)
    fun slot member ended => sound.apart_of_ended parentBelow (List.mem_range.mp member) ended
  refine ⟨count, after, ?_, sweeps⟩
  simp only [reapTerminalChildren, bind_state, resolved, bind_lift_ok]
  exact outcome

theorem reapTerminalChildren_clears (sound : TreeSound table) (parent : Nat) :
    Clears table (reapTerminalChildren parent table).2 := by
  cases resolved : table.resolve parent with
  | ok parentSlot =>
    obtain ⟨count, after, outcome, sweeps⟩ := reapTerminalChildren_sweeps sound resolved
    rw [outcome]
    exact sweeps.clears
  | error failure =>
    simp only [reapTerminalChildren, bind_state, resolved, bind_lift_error]
    exact refl table

theorem reapOrphans_clears (sound : TreeSound table) : Clears table table.reapOrphans.2 := by
  have clears := reapTerminalChildren_clears sound table.initHandle
  unfold reapOrphans
  split <;> (rename_i outcome; rwa [outcome] at clears)

end Reap

/-! ### The operations and the books -/

/-- Installing a process in a free slot leaves all records alone. -/
theorem install_quiet (table : Table) (parentSlot : Nat)
    (free : (table.processes slot).used = false) (active : process.terminal = false) :
    Quiet table (table.install slot parentSlot process) := by
  have placed (entry : Process) (ended : entry.terminal = process.terminal) :
      SameRecord (table.processes slot) entry :=
    sameRecord_of_none (record_of_unused free) (record_of_active (ended.trans active))
  refine ⟨fun other => ?_, ?_⟩
  · unfold install
    dsimp only
    split
    · rw [modify_apply]
      split
      · rename_i here
        subst here
        exact placed _ rfl
      · exact SameRecord.refl _
    · rw [modify_apply, modify_apply]
      obtain rfl | here := eq_or_ne other slot
      · rw [if_pos rfl]
        split
        · exact placed _ rfl
        · exact placed _ rfl
      · rw [if_neg here]
        split
        · exact sameRecord_of_ending rfl rfl rfl rfl
        · exact SameRecord.refl _
  · unfold install
    dsimp only
    split <;> rfl

variable {request : SpawnRequest} {result : Except Error Nat}

theorem SpawnOutcome.quiet {after : Table} {parent : Option Nat} {group : SpawnGroup}
    (outcome : SpawnOutcome table parent request group result after) : Quiet table after := by
  cases outcome with
  | refused failure reuses nextPid => exact ⟨fun _ => SameRecord.refl _, rfl⟩
  | @accepted reuses nextPid parentSlot slot processGroup _ _ _ free =>
    have active : (table.newProcess request slot parentSlot table.nextPid processGroup).terminal =
        false := rfl
    have installed := install_quiet { table with slotReuses := reuses, nextPid } parentSlot free active
    exact ⟨installed.slots, installed.sequence⟩

/-- The first user process takes over `init`, which has not ended. -/
theorem configureInitUserspace_quiet (sound : TreeSound table) (booked : Booked table log)
    (name : Bytes) (arguments : List Bytes) (cwdNode : Nat) :
    KeepsFrom Quiet table (configureInitUserspace name arguments cwdNode) := by
  refine keepsFrom_failWhen fun _ => keepsFrom_failWhen fun _ => keepsFrom_state ?_
  refine keepsFrom_lift fun slot resolved => keepsFrom_failWhen fun _ => ?_
  refine keepsFrom_failWhen fun _ => keepsFrom_change (SameTree.quiet ?_)
  cases (sound.resolve_init.symm.trans resolved)
  have alive : (table.processes 0).terminal = false :=
    (record_eq_none.mp booked.spared).resolve_left (by rw [sound.root.1]; decide)
  exact sameTree_modify (of_active rfl alive rfl)

/-- The records that an operation leaves in the table. -/
def PublicOperation.endings (table : Table) : PublicOperation → List Obituary
  | .core (.sendGroupSignal sender group signal) =>
    signalEndings sender signal table (table.groupTargets group)
  | operation => newlyEnded table (operation.apply table)

/-- The records that an operation hands to a parent, or consumes for it. -/
def PublicOperation.delivered (table : Table) : PublicOperation → List Obituary
  | .core (.wait parent target nonblocking) =>
    returned (Table.wait parent target nonblocking table).1
  | .core (.waitGroup parent group nonblocking) =>
    returned (Table.waitGroup parent group nonblocking table).1
  | .core (.reapTerminalChildren parent) => freed table (Table.reapTerminalChildren parent table).2
  | .reapOrphans => freed table table.reapOrphans.2
  | _ => []

def Log.after (log : Log) (table : Table) (operation : PublicOperation) : Log :=
  { ended := log.ended ++ operation.endings table
    reaped := log.reaped ++ operation.delivered table }

/-- `init` does not end. -/
def PublicOperation.SparesInit (table : Table) : PublicOperation → Prop
  | .core (.exit handle _) => handle ≠ table.initHandle
  | .core (.fault handle _ _) => handle ≠ table.initHandle
  | .core (.sendSignal sender target signal) => SignalSparesInit table sender target signal
  | .core (.sendGroupSignal sender group signal) =>
    GroupSignalSparesInit sender signal table (table.groupTargets group)
  | .accountTick handle => TickEnds table handle → handle ≠ table.initHandle
  | _ => True

section Books

variable {table : Table} {log : Log} {operation : PublicOperation}

theorem Booked.after_quiet (booked : Booked table log) (quiet : Quiet table (operation.apply table))
    (endings : operation.endings table = newlyEnded table (operation.apply table))
    (delivered : operation.delivered table = []) :
    Booked (operation.apply table) (log.after table operation) := by
  unfold Log.after
  rw [endings, quiet.newlyEnded, delivered, List.append_nil, List.append_nil]
  exact booked.quiet quiet

theorem Booked.after_clears (booked : Booked table log) (clears : Clears table (operation.apply table))
    (endings : operation.endings table = newlyEnded table (operation.apply table))
    (delivered : operation.delivered table = freed table (operation.apply table)) :
    Booked (operation.apply table) (log.after table operation) := by
  unfold Log.after
  rw [endings, clears.newlyEnded, delivered, List.append_nil]
  exact booked.clears clears

theorem Booked.after_advances (booked : Booked table log)
    (advances : Advances table (operation.apply table))
    (endings : operation.endings table = newlyEnded table (operation.apply table))
    (delivered : operation.delivered table = [])
    (few : (log.after table operation).ended.length < 2 ^ 64 - 1) :
    Booked (operation.apply table) (log.after table operation) := by
  unfold Log.after at few ⊢
  rw [endings] at few ⊢
  rw [delivered, List.append_nil]
  exact booked.advances advances few

/-- One step keeps the books. -/
theorem PublicOperation.apply_booked (operation : PublicOperation) (sound : TreeSound table)
    (booked : Booked table log) (spares : operation.SparesInit table)
    (few : (log.after table operation).ended.length < 2 ^ 64 - 1) :
    Booked (operation.apply table) (log.after table operation) := by
  cases operation with
  | core operation =>
    cases operation with
    | spawn parent request =>
      exact booked.after_quiet (spawnInternal_outcome parent request .inherit table).quiet rfl rfl
    | spawnPipeline parent request group =>
      refine booked.after_quiet ?_ rfl rfl
      simp only [PublicOperation.apply, Operation.apply, Table.spawnPipeline, bind_failWhen]
      split
      · exact refl table
      · exact (spawnInternal_outcome (some parent) request group table).quiet
    | exit handle status =>
      exact booked.after_advances (exit_advances status sound spares) rfl rfl few
    | fault handle vector address =>
      exact booked.after_advances (fault_advances vector address sound spares) rfl rfl few
    | sendSignal sender target signal =>
      exact booked.after_advances (sendSignal_advances sound spares) rfl rfl few
    | sendGroupSignal sender group signal =>
      have signalled := signalEach_booked (table.groupTargets group) sound booked spares few
      unfold Log.after
      rw [show PublicOperation.delivered table (.core (.sendGroupSignal sender group signal)) = []
        from rfl, List.append_nil]
      refine cast (congrArg (Booked · _) ?_) signalled
      simp only [PublicOperation.apply, Operation.apply, Table.sendGroupSignal, bind_state]
      rw [bind_apply]
      split
      · rename_i outcome
        rw [outcome, pure_apply]
      · rename_i outcome
        rw [outcome]
    | wait parent target nonblocking =>
      obtain ⟨clears, settled⟩ := wait_handsOver sound parent target nonblocking
      exact booked.after_clears clears rfl settled.symm
    | waitGroup parent group nonblocking =>
      obtain ⟨clears, settled⟩ := waitGroup_handsOver sound parent group nonblocking
      exact booked.after_clears clears rfl settled.symm
    | reapTerminalChildren parent =>
      exact booked.after_clears (reapTerminalChildren_clears sound parent) rfl rfl
    | stop handle => exact booked.after_quiet (stop_sameTree handle table).quiet rfl rfl
    | continueProcess handle =>
      exact booked.after_quiet (continueProcess_sameTree handle table).quiet rfl rfl
  | configureInitUserspace name arguments cwdNode =>
    exact booked.after_quiet (configureInitUserspace_quiet sound booked name arguments cwdNode) rfl rfl
  | setRunning handle => exact booked.after_quiet (setRunning_sameTree handle table).quiet rfl rfl
  | setRunnable handle => exact booked.after_quiet (setRunnable_sameTree handle table).quiet rfl rfl
  | scheduleNext current =>
    exact booked.after_quiet (scheduleNextEligible_sameTree table current none).quiet rfl rfl
  | scheduleNextKind kind current =>
    exact booked.after_quiet (scheduleNextEligible_sameTree table current (some kind)).quiet rfl rfl
  | accountTick handle => exact booked.after_advances (accountTick_advances sound spares) rfl rfl few
  | accountSyscall handle =>
    exact booked.after_quiet (accountSyscall_sameTree handle table).quiet rfl rfl
  | sleep handle wakeTick => exact booked.after_quiet (sleep_sameTree handle wakeTick table).quiet rfl rfl
  | block handle reason target =>
    exact booked.after_quiet (block_sameTree handle reason target table).quiet rfl rfl
  | wakeExpired tick => exact booked.after_quiet (wakeExpired_sameTree table tick).quiet rfl rfl
  | wakeMatching reason target all =>
    exact booked.after_quiet (wakeMatching_sameTree table reason target all).quiet rfl rfl
  | takeSignal handle => exact booked.after_quiet (takeSignal_sameTree handle table).quiet rfl rfl
  | setSignalMask handle mask =>
    exact booked.after_quiet (setSignalMask_sameTree handle mask table).quiet rfl rfl
  | setUmask handle mask => exact booked.after_quiet (setUmask_sameTree handle mask table).quiet rfl rfl
  | reapOrphans => exact booked.after_clears (reapOrphans_clears sound) rfl rfl
  | setResourceUsage handle pages descriptors sockets =>
    exact booked.after_quiet (setResourceUsage_sameTree handle pages descriptors sockets table).quiet
      rfl rfl
  | setWorkingDirectory handle cwdNode =>
    exact booked.after_quiet (setWorkingDirectory_sameTree handle cwdNode table).quiet rfl rfl
  | setProcessGroup caller target group =>
    exact booked.after_quiet (setProcessGroup_sameTree caller target group table).quiet rfl rfl

end Books

/-! ### Pids -/

/-- No two processes share a pid. -/
def DistinctPids (table : Table) : Prop :=
  ∀ first < maximumProcesses, ∀ second < maximumProcesses, (table.processes first).used = true →
    (table.processes second).used = true →
      (table.processes first).pid = (table.processes second).pid → first = second

/-- A spawn that is accepted gets a pid that nobody has. Pids come round after `2 ^ 32 - 1` spawns. -/
def SpawnsFresh (table : Table) (parent : Option Nat) (request : SpawnRequest) (group : SpawnGroup) :
    Prop :=
  ∀ parentSlot, table.resolveParent parent = .ok parentSlot →
    SpawnAccepted table parentSlot request group →
      ∀ slot < maximumProcesses, (table.processes slot).used = true →
        (table.processes slot).pid ≠ table.nextPid

def PublicOperation.FreshPid (table : Table) : PublicOperation → Prop
  | .core (.spawn parent request) => SpawnsFresh table parent request .inherit
  | .core (.spawnPipeline parent request group) =>
    group ≠ .inherit → SpawnsFresh table (some parent) request group
  | _ => True

theorem Thins.distinctPids {after : Table} (thins : Thins before after)
    (distinct : DistinctPids before) : DistinctPids after := by
  intro first firstBelow second secondBelow firstUsed secondUsed same
  obtain ⟨firstWas, -, firstPid⟩ := (thins first).occupant firstUsed
  obtain ⟨secondWas, -, secondPid⟩ := (thins second).occupant secondUsed
  rw [firstPid, secondPid] at same
  exact distinct first firstBelow second secondBelow firstWas secondWas same

/-- Who is where after an installation. -/
theorem install_occupant (table : Table) (slot parentSlot : Nat) (process : Process) (other : Nat) :
    ((table.install slot parentSlot process).processes other).used =
        (if other = slot then process.used else (table.processes other).used) ∧
      ((table.install slot parentSlot process).processes other).pid =
        if other = slot then process.pid else (table.processes other).pid := by
  unfold install
  dsimp only
  split
  · rw [modify_apply]
    split_ifs <;> exact ⟨rfl, rfl⟩
  · rw [modify_apply, modify_apply]
    split_ifs <;> exact ⟨rfl, rfl⟩

theorem SpawnOutcome.distinctPids {after : Table} {parent : Option Nat} {group : SpawnGroup}
    (outcome : SpawnOutcome table parent request group result after)
    (fresh : SpawnsFresh table parent request group) (distinct : DistinctPids table) :
    DistinctPids after := by
  cases outcome with
  | refused failure reuses nextPid => exact distinct
  | @accepted reuses nextPid parentSlot slot processGroup resolved accepts _ _ =>
    have unlike := fresh parentSlot resolved accepts
    have occupant := install_occupant { table with slotReuses := reuses, nextPid } slot parentSlot
      (table.newProcess request slot parentSlot table.nextPid processGroup)
    intro first firstBelow second secondBelow firstUsed secondUsed same
    obtain ⟨firstIs, firstPid⟩ := occupant first
    obtain ⟨secondIs, secondPid⟩ := occupant second
    rw [firstIs] at firstUsed
    rw [secondIs] at secondUsed
    rw [firstPid, secondPid] at same
    split_ifs at firstUsed secondUsed same with firstHere secondHere secondHere
    · rw [firstHere, secondHere]
    · exact absurd same.symm (unlike second secondBelow secondUsed)
    · exact absurd same (unlike first firstBelow firstUsed)
    · exact distinct first firstBelow second secondBelow firstUsed secondUsed same

theorem PublicOperation.apply_distinctPids (operation : PublicOperation)
    (fresh : operation.FreshPid table) (distinct : DistinctPids table) :
    DistinctPids (operation.apply table) := by
  by_cases other : operation.spawns = false
  · exact (operation.apply_thins other table).distinctPids distinct
  · simp only [PublicOperation.spawns] at other
    split at other
    · exact (spawnInternal_outcome _ _ .inherit table).distinctPids fresh distinct
    · simp only [PublicOperation.apply, Operation.apply, Table.spawnPipeline, bind_failWhen]
      split
      · exact distinct
      · rename_i pipeline
        exact (spawnInternal_outcome _ _ _ table).distinctPids (fresh pipeline) distinct
    · exact absurd rfl other

/-! ### Runs and their books -/

/-- What keeps the books in order: every new process has a live parent and a pid of its own, and
`init` does not end. -/
def PublicOperation.Accountable (table : Table) (operation : PublicOperation) : Prop :=
  operation.Orderly table ∧ operation.SparesInit table ∧ operation.FreshPid table

/-- The runs whose steps are all accountable, with their books. -/
inductive AccountableRun : Table → Log → Prop where
  | initialized (tick : Nat) : AccountableRun (Table.initialized tick) {}
  | step {table : Table} {log : Log} (operation : PublicOperation) :
      AccountableRun table log → operation.Accountable table →
        AccountableRun (operation.apply table) (log.after table operation)

theorem AccountableRun.orderlyRun (run : AccountableRun table log) : OrderlyRun table := by
  induction run with
  | initialized tick => exact .initialized tick
  | step operation _ accountable hypothesis =>
    exact .step operation hypothesis accountable.1

theorem initialized_alone {tick : Nat}
    (used : ((Table.initialized tick).processes slot).used = true) : slot = 0 := by
  by_contra other
  rw [initialized_processes, update_of_ne other] at used
  cases used

theorem initialized_record (tick slot : Nat) :
    ((Table.initialized tick).processes slot).record = none := by
  by_cases root : slot = 0
  · rw [root, initialized_processes, update_self]
    rfl
  · rw [initialized_processes, update_of_ne root]
    rfl

theorem initialized_booked (tick : Nat) : Booked (Table.initialized tick) {} := by
  refine ⟨fun obituary => ?_, (initialized_counters tick).2, fun slot _ obituary record => ?_,
    fun first _ second _ held => ?_, initialized_record tick 0⟩
  · have nobody : (Table.initialized tick).holders obituary = 0 :=
      countIndex_eq_zero.mpr fun slot _ => by rw [initialized_record]; rfl
    rw [nobody]
    rfl
  · rw [initialized_record] at record
    cases record
  · exact absurd (initialized_record tick first) held

theorem AccountableRun.booked (run : AccountableRun table log)
    (few : log.ended.length < 2 ^ 64 - 1) : Booked table log := by
  induction run with
  | initialized tick => exact initialized_booked tick
  | @step table log operation sofar accountable hypothesis =>
    have fewer : log.ended.length < 2 ^ 64 - 1 := by
      rw [Log.after, List.length_append] at few
      exact (Nat.le_add_right _ _).trans_lt few
    exact operation.apply_booked sofar.orderlyRun.treeSound (hypothesis fewer)
      accountable.2.1 few

theorem AccountableRun.distinctPids (run : AccountableRun table log) : DistinctPids table := by
  induction run with
  | initialized tick =>
    intro first _ second _ firstUsed secondUsed _
    rw [initialized_alone firstUsed, initialized_alone secondUsed]
  | step operation _ accountable hypothesis =>
    exact operation.apply_distinctPids accountable.2.2 hypothesis

/-! ### Who is reaped -/

/-- How many processes ended before this one. -/
def Process.place (process : Process) : Nat := process.terminalSequence - 1

/-- Among the ended children that the filter admits this one ended first. -/
def EndedFirst (table : Table) (parentSlot : Nat) (filter : Process → Bool) (slot : Nat) : Prop :=
  filter (table.processes slot) = true ∧
    ∀ other < maximumProcesses, other ≠ slot → EndedChild table parentSlot other →
      filter (table.processes other) = true →
        (table.processes slot).place < (table.processes other).place

/-- The call took the status of an ended child away, and the caller is its live parent. -/
structure ReapedByParent (table after : Table) (parentSlot slot : Nat) (status : Status) : Prop where
  below : slot < maximumProcesses
  child : EndedChild table parentSlot slot
  named : (table.processes slot).ppid = (table.processes parentSlot).pid
  alive : (table.processes parentSlot).terminal = false
  record : (table.processes slot).record = some status.obituary
  gone : (after.processes slot).used = false

section Choice

variable {table after : Table} {log : Log} {parentSlot slot : Nat}

theorem Booked.first_of_earliest (booked : Booked table log) {filter : Process → Bool}
    (found : table.earliestTerminal parentSlot filter = some slot) :
    EndedFirst table parentSlot filter slot := by
  obtain ⟨below, ended, admitted⟩ := earliestTerminal_ended found
  refine ⟨admitted, fun other otherBelow different otherEnded otherAdmitted => ?_⟩
  have least := (leastIndex_eq_some found).2.2.2 other otherBelow
    (by simp [Table.isChild, otherEnded.1, otherEnded.2.1, otherEnded.2.2, otherAdmitted])
  obtain ⟨obituary, record⟩ := exists_record ended.1 ended.2.2
  obtain ⟨otherObituary, otherRecord⟩ := exists_record otherEnded.1 otherEnded.2.2
  have positive := (booked.placed slot below obituary record).1
  have unequal : (table.processes other).terminalSequence ≠ (table.processes slot).terminalSequence :=
    fun same => different (booked.apart other otherBelow slot below (by simp [otherRecord])
      (by simp [record]) same)
  unfold Process.place
  omega

/-- The sequence numbers in use are all below the one that the search starts from. -/
theorem Booked.exists_earliest (booked : Booked table log) (few : log.ended.length < 2 ^ 64 - 1)
    (filter : Process → Bool) (below : slot < maximumProcesses)
    (ended : EndedChild table parentSlot slot) (admitted : filter (table.processes slot) = true) :
    ∃ first, table.earliestTerminal parentSlot filter = some first := by
  rcases found : table.earliestTerminal parentSlot filter with _ | first
  · have large := leastIndex_eq_none found slot below
      (by simp [Table.isChild, ended.1, ended.2.1, ended.2.2, admitted])
    obtain ⟨obituary, record⟩ := exists_record ended.1 ended.2.2
    have small := booked.place_le below (by simp [record])
    omega
  · exact ⟨first, rfl⟩

theorem preferredChild_of_earliest {filter : Process → Bool}
    (found : table.earliestTerminal parentSlot filter = some slot) :
    table.preferredChild parentSlot filter = .ok (some (table.processes slot).handle) := by
  obtain ⟨below, ended, admitted⟩ := earliestTerminal_ended found
  have isChild : table.isChild parentSlot filter slot = true := by
    simp [Table.isChild, ended.1, ended.2.1, admitted]
  obtain ⟨first, isFirst⟩ := exists_firstIndex below isChild
  unfold preferredChild
  rw [isFirst, found]

/-- A wait for a named ended child reaps that child: handles are not shared. -/
theorem waitCandidate_named (sound : TreeSound table) (below : slot < maximumProcesses)
    (ended : EndedChild table parentSlot slot) :
    table.waitCandidate parentSlot (some (table.processes slot).handle) = some slot := by
  obtain ⟨found, isFound⟩ := @exists_firstIndex maximumProcesses slot
    (fun other => table.isChild parentSlot
        (fun process => process.handle == (table.processes slot).handle) other &&
      (table.processes other).terminal) below
    (by simp [Table.isChild, ended.1, ended.2.1, ended.2.2])
  have candidate : table.waitCandidate parentSlot (some (table.processes slot).handle) = some found :=
    isFound
  obtain ⟨foundBelow, foundEnded, named⟩ := waitCandidate_ended candidate
  have resolves := sound.resolve foundBelow foundEnded.1
  rw [beq_iff_eq.mp named, sound.resolve below ended.1] at resolves
  rw [candidate, Except.ok.inj resolves]

theorem TreeSound.reapedByParent (sound : TreeSound table) {status : Status}
    (parentBelow : parentSlot < maximumProcesses) (below : slot < maximumProcesses)
    (ended : EndedChild table parentSlot slot) (takes : Takes table after parentSlot slot status) :
    ReapedByParent table after parentSlot slot status := by
  have nonroot : slot ≠ 0 := by
    rintro rfl
    exact ne_invalidSlot parentBelow (ended.2.1.symm.trans sound.root.2.2)
  have links := sound.parents slot below ended.1 nonroot
  refine ⟨below, ended, ?_, ?_, takes.record, takes.gone⟩
  · rw [← links.named, ended.2.1]
  · rw [← ended.2.1]
    exact links.alive

variable {nonblocking : Bool}

theorem wait_some {status : Status} (sound : TreeSound table)
    (outcome : wait parent target nonblocking table = (.ok (some status), after)) :
    ∃ parentSlot slot, table.resolve parent = .ok parentSlot ∧
      table.waitCandidate parentSlot target = some slot ∧
      ReapedByParent table after parentSlot slot status := by
  cases resolved : table.resolve parent with
  | error failure =>
    simp only [wait, bind_state, resolved, bind_lift_error] at outcome
    cases outcome
  | ok parentSlot =>
    cases found : table.waitCandidate parentSlot target with
    | some slot =>
      obtain ⟨reaped, hands, takes⟩ := wait_of_candidate nonblocking sound resolved found
      obtain ⟨below, ended, -⟩ := waitCandidate_ended found
      cases hands.symm.trans outcome
      exact ⟨parentSlot, slot, rfl, found,
        sound.reapedByParent (resolve_ok resolved).1 below ended takes⟩
    | none =>
      have nothing := (blockOnChild_sameTree sound (resolve_ok resolved).1 (targetFilter target)
        nonblocking (target.getD 0) false).2
      simp only [wait, bind_state, resolved, bind_lift_ok, found] at outcome
      rw [outcome] at nothing
      cases nothing

theorem waitGroup_some {status : Status} (sound : TreeSound table)
    (outcome : waitGroup parent group nonblocking table = (.ok (some status), after)) :
    ∃ parentSlot slot, table.resolve parent = .ok parentSlot ∧
      table.earliestTerminal parentSlot (groupFilter group) = some slot ∧
      ReapedByParent table after parentSlot slot status := by
  by_cases real : group = 0
  · simp only [waitGroup, bind_failWhen, if_pos real] at outcome
    cases outcome
  · cases resolved : table.resolve parent with
    | error failure =>
      simp only [waitGroup, bind_failWhen, if_neg real, bind_state, resolved,
        bind_lift_error] at outcome
      cases outcome
    | ok parentSlot =>
      cases found : table.earliestTerminal parentSlot (groupFilter group) with
      | some slot =>
        obtain ⟨reaped, hands, takes⟩ := waitGroup_of_earliest nonblocking real sound resolved found
        obtain ⟨below, ended, -⟩ := earliestTerminal_ended found
        cases hands.symm.trans outcome
        exact ⟨parentSlot, slot, rfl, found,
          sound.reapedByParent (resolve_ok resolved).1 below ended takes⟩
      | none =>
        have nothing := (blockOnChild_sameTree sound (resolve_ok resolved).1 (groupFilter group)
          nonblocking group true).2
        simp only [waitGroup, bind_failWhen, if_neg real, bind_state, resolved,
          bind_lift_ok, found] at outcome nothing
        rw [outcome] at nothing
        cases nothing

end Choice

/-- Every record is taken out once, by the parent, the oldest that fits first, and the lookups
name the child that the wait after them takes. -/
structure ReapsOnce (table : Table) (log : Log) : Prop where
  once : ∀ obituary,
    log.ended.count obituary = log.reaped.count obituary + table.holders obituary
  placed : ∀ slot < maximumProcesses, ∀ obituary, (table.processes slot).record = some obituary →
    log.ended[(table.processes slot).place]? = some obituary
  held : ∀ slot < maximumProcesses, ∀ obituary, (table.processes slot).record = some obituary →
    ∃ parent, ∀ nonblocking, ∃ status after,
      Table.wait parent (some (table.processes slot).handle) nonblocking table =
        (.ok (some status), after) ∧ status.obituary = obituary
  wait : ∀ parent target nonblocking status after,
    Table.wait parent target nonblocking table = (.ok (some status), after) →
      ∃ parentSlot slot, table.resolve parent = .ok parentSlot ∧
        ReapedByParent table after parentSlot slot status ∧
        (∀ handle, target = some handle → (table.processes slot).handle = handle) ∧
        (target = none → EndedFirst table parentSlot (fun _ => true) slot)
  waitGroup : ∀ parent group nonblocking status after,
    Table.waitGroup parent group nonblocking table = (.ok (some status), after) →
      ∃ parentSlot slot, table.resolve parent = .ok parentSlot ∧
        ReapedByParent table after parentSlot slot status ∧
        EndedFirst table parentSlot (groupFilter group) slot
  sweep : ∀ parent count after, Table.reapTerminalChildren parent table = (.ok count, after) →
    ∃ parentSlot, table.resolve parent = .ok parentSlot ∧ ∀ slot < maximumProcesses,
      (EndedChild table parentSlot slot → (after.processes slot).used = false) ∧
        (¬ EndedChild table parentSlot slot →
          (after.processes slot).record = (table.processes slot).record)
  anyChild : ∀ parent parentSlot nonblocking, table.resolve parent = .ok parentSlot →
    (∃ slot < maximumProcesses, EndedChild table parentSlot slot) →
      ∃ status after, table.childForWait parent 0 = .ok (some status.handle) ∧
        Table.wait parent none nonblocking table = (.ok (some status), after) ∧
        Table.wait parent (some status.handle) nonblocking table = (.ok (some status), after)
  namedChild : ∀ parent parentSlot pid nonblocking, table.resolve parent = .ok parentSlot → pid ≠ 0 →
    (∃ slot < maximumProcesses, EndedChild table parentSlot slot ∧ (table.processes slot).pid = pid) →
      ∃ status after, table.childForWait parent pid = .ok (some status.handle) ∧ status.pid = pid ∧
        Table.wait parent (some status.handle) nonblocking table = (.ok (some status), after)
  groupChild : ∀ parent parentSlot group nonblocking, table.resolve parent = .ok parentSlot →
    group ≠ 0 → (∃ slot < maximumProcesses, EndedChild table parentSlot slot ∧
        (table.processes slot).processGroup = group) →
      ∃ status after, table.childForWaitGroup parent group = .ok (some status.handle) ∧
        Table.waitGroup parent group nonblocking table = (.ok (some status), after)

section Reaped

variable {table : Table} {log : Log} {parent parentSlot : Nat}

/-- What an ended process left can be fetched through its parent. -/
theorem TreeSound.fetch (sound : TreeSound table) (booked : Booked table log) {obituary : Obituary}
    (below : slot < maximumProcesses) (record : (table.processes slot).record = some obituary) :
    ∃ parent, ∀ nonblocking, ∃ status after,
      Table.wait parent (some (table.processes slot).handle) nonblocking table =
        (.ok (some status), after) ∧ status.obituary = obituary := by
  obtain ⟨used, terminal⟩ := used_of_record record
  have nonroot : slot ≠ 0 := by
    rintro rfl
    rw [booked.spared] at record
    cases record
  have links := sound.parents slot below used nonroot
  have ended : EndedChild table (table.processes slot).parentSlot slot := ⟨used, rfl, terminal⟩
  refine ⟨(table.processes (table.processes slot).parentSlot).handle, fun nonblocking => ?_⟩
  obtain ⟨after, outcome, takes⟩ := wait_of_candidate nonblocking sound
    (sound.resolve links.below links.used) (waitCandidate_named sound below ended)
  exact ⟨_, after, outcome, Option.some.inj (takes.record.symm.trans record)⟩

theorem TreeSound.reapsAny (sound : TreeSound table) (booked : Booked table log)
    (few : log.ended.length < 2 ^ 64 - 1) (nonblocking : Bool)
    (resolved : table.resolve parent = .ok parentSlot)
    (some_ended : ∃ slot < maximumProcesses, EndedChild table parentSlot slot) :
    ∃ status after, table.childForWait parent 0 = .ok (some status.handle) ∧
      Table.wait parent none nonblocking table = (.ok (some status), after) ∧
      Table.wait parent (some status.handle) nonblocking table = (.ok (some status), after) := by
  obtain ⟨slot, below, ended⟩ := some_ended
  obtain ⟨first, found⟩ := booked.exists_earliest few (fun _ => true) below ended rfl
  obtain ⟨firstBelow, firstEnded, -⟩ := earliestTerminal_ended found
  have candidate : table.waitCandidate parentSlot none = some first := found
  have apart := sound.apart_of_ended (resolve_ok resolved).1 firstBelow firstEnded
  obtain ⟨after, reaps, -⟩ := reapSlot_takes firstEnded apart
  have waits (target : Option Nat) (chosen : table.waitCandidate parentSlot target = some first) :
      Table.wait parent target nonblocking table =
        (.ok (some (table.processes first).status), after) := by
    simp only [Table.wait, bind_state, resolved, bind_lift_ok, chosen]
    rw [bind_of_ok reaps]
    rfl
  refine ⟨(table.processes first).status, after, ?_, waits none candidate,
    waits _ (waitCandidate_named sound firstBelow firstEnded)⟩
  unfold childForWait
  rw [resolved]
  exact preferredChild_of_earliest found

theorem TreeSound.reapsNamed (sound : TreeSound table) (distinct : DistinctPids table) {pid : Nat}
    (nonblocking : Bool) (resolved : table.resolve parent = .ok parentSlot) (real : pid ≠ 0)
    (some_ended : ∃ slot < maximumProcesses,
      EndedChild table parentSlot slot ∧ (table.processes slot).pid = pid) :
    ∃ status after, table.childForWait parent pid = .ok (some status.handle) ∧ status.pid = pid ∧
      Table.wait parent (some status.handle) nonblocking table = (.ok (some status), after) := by
  obtain ⟨slot, below, ended, named⟩ := some_ended
  obtain ⟨after, outcome, -⟩ := wait_of_candidate nonblocking sound resolved
    (waitCandidate_named sound below ended)
  refine ⟨(table.processes slot).status, after, ?_, named, outcome⟩
  have isChild : table.isChild parentSlot (fun process => process.pid == pid) slot = true := by
    simp [Table.isChild, ended.1, ended.2.1, named]
  obtain ⟨first, isFirst⟩ := exists_firstIndex below isChild
  have test := firstIndex_test isFirst
  simp only [Table.isChild, Bool.and_eq_true, beq_iff_eq] at test
  obtain rfl := distinct first (firstIndex_lt isFirst) slot below test.1.1 ended.1
    (test.2.trans named.symm)
  unfold childForWait
  rw [resolved]
  dsimp only
  rw [if_neg real, isFirst]
  rfl

theorem TreeSound.reapsGroup (sound : TreeSound table) (booked : Booked table log)
    (few : log.ended.length < 2 ^ 64 - 1) (nonblocking : Bool)
    (resolved : table.resolve parent = .ok parentSlot) (real : group ≠ 0)
    (some_ended : ∃ slot < maximumProcesses,
      EndedChild table parentSlot slot ∧ (table.processes slot).processGroup = group) :
    ∃ status after, table.childForWaitGroup parent group = .ok (some status.handle) ∧
      Table.waitGroup parent group nonblocking table = (.ok (some status), after) := by
  obtain ⟨slot, below, ended, member⟩ := some_ended
  have admitted : groupFilter group (table.processes slot) = true := beq_iff_eq.mpr member
  obtain ⟨first, found⟩ := booked.exists_earliest few (groupFilter group) below ended admitted
  obtain ⟨after, outcome, -⟩ := waitGroup_of_earliest nonblocking real sound resolved found
  refine ⟨(table.processes first).status, after, ?_, outcome⟩
  unfold childForWaitGroup
  rw [if_neg real, resolved]
  exact preferredChild_of_earliest found

end Reaped

/-- In a run whose steps are accountable every ended child is reaped once, in order. -/
theorem accountableRun_reapsOnce {table : Table} {log : Log} (run : AccountableRun table log)
    (few : log.ended.length < 2 ^ 64 - 1) : ReapsOnce table log := by
  have sound := run.orderlyRun.treeSound
  have booked := run.booked few
  refine ⟨booked.balance, fun slot below obituary record => (booked.placed slot below obituary record).2,
    fun slot below obituary record => sound.fetch booked below record, ?_, ?_, ?_,
    fun parent parentSlot nonblocking => sound.reapsAny booked few nonblocking,
    fun parent parentSlot pid nonblocking => sound.reapsNamed run.distinctPids nonblocking,
    fun parent parentSlot group nonblocking => sound.reapsGroup booked few nonblocking⟩
  · intro parent target nonblocking status after outcome
    obtain ⟨parentSlot, slot, resolved, found, reaped⟩ := wait_some sound outcome
    refine ⟨parentSlot, slot, resolved, reaped, fun handle isTarget => ?_, fun noTarget => ?_⟩
    · subst isTarget
      exact beq_iff_eq.mp (waitCandidate_ended found).2.2
    · subst noTarget
      exact booked.first_of_earliest found
  · intro parent group nonblocking status after outcome
    obtain ⟨parentSlot, slot, resolved, found, reaped⟩ := waitGroup_some sound outcome
    exact ⟨parentSlot, slot, resolved, reaped, booked.first_of_earliest found⟩
  · intro parent count after outcome
    cases resolved : table.resolve parent with
    | error failure =>
      simp only [reapTerminalChildren, bind_state, resolved, bind_lift_error] at outcome
      cases outcome
    | ok parentSlot =>
      obtain ⟨swept, final, result, sweeps⟩ := reapTerminalChildren_sweeps sound resolved
      cases result.symm.trans outcome
      exact ⟨parentSlot, rfl, fun slot below => ⟨sweeps.gone slot (List.mem_range.mpr below),
        fun alive => (sweeps.others slot (.inr alive)).sameRecord.record⟩⟩

/-- One more operation, and what it adds to the books. -/
def recorded (state : Table × Log) (operation : PublicOperation) : Table × Log :=
  (operation.apply state.1, state.2.after state.1 operation)

/-- `init` and a child of it that exits. -/
def orphanlessRun : List PublicOperation := [
  .core (.spawn (some 0x100000000) { name := [113] }),
  .core (.exit 0x100000001 7)]

theorem orphanlessRun_reapsOnce :
    let final := orphanlessRun.foldl recorded (Table.initialized 0, {})
    final.2.ended.length = 1 ∧ ReapsOnce final.1 final.2 := by
  have accountable : PublicOperation.Accountable (Table.initialized 0)
      (.core (.spawn (some 0x100000000) { name := [113] })) := by
    have isInit : (Table.initialized 0).resolveParent (some 0x100000000) = .ok 0 := by decide +kernel
    refine ⟨fun parentSlot resolved _ => ?_, trivial, fun parentSlot resolved _ => ?_⟩
    · obtain rfl := Except.ok.inj (isInit.symm.trans resolved)
      decide +kernel
    · decide +kernel
  have exits : PublicOperation.Accountable
      (PublicOperation.apply (Table.initialized 0) (.core (.spawn (some 0x100000000) { name := [113] })))
      (.core (.exit 0x100000001 7)) := by
    refine ⟨fun _ _ isInit => absurd isInit ?_, ?_, trivial⟩
    · decide +kernel
    · show _ ≠ _
      decide +kernel
  refine ⟨by decide +kernel, accountableRun_reapsOnce (.step _ (.step _ (.initialized 0) accountable)
    exits) ?_⟩
  decide +kernel

/-- A process ends, spawns a child, and waits for it. -/
def posthumousWait : List PublicOperation := [
  .core (.spawn (some 0x100000000) { name := [113] }),
  .core (.exit 0x100000001 7),
  .core (.spawn (some 0x100000001) { name := [99] }),
  .core (.wait 0x100000001 none false)]

theorem posthumousWait_loses_status :
    ¬ ReapsOnce (posthumousWait.foldl recorded (Table.initialized 0, {})).1
      (posthumousWait.foldl recorded (Table.initialized 0, {})).2 := by
  intro reaps
  have balance := reaps.once
    { handle := 0x100000001, pid := 2, state := .zombie, exitStatus := 7, faultVector := 0,
      faultAddress := 0 }
  exact absurd balance (by decide +kernel)

end ZigOs.RuntimeProcess
