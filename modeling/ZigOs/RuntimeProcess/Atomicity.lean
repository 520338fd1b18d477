/-
This file says which calls on the process table fail without leaving it as it
was. A spawn uses up a pid, and perhaps counts a reuse of a slot, before it looks
at the group and at the length of the arguments. A signal to a group goes to one
member after another, and a member that it may not go to comes too late for those
before it. Every other call makes all its checks first.
-/

import ZigOs.RuntimeProcess.Pids

namespace ZigOs.RuntimeProcess

open Scan Table Call List PublicOperation

/-! ### Handles name slots -/

/-- The handle of every process leads to its slot. -/
def Named (table : Table) : Prop :=
  ∀ slot < maximumProcesses, (table.processes slot).used = true →
    (table.processes slot).handle = makeHandle slot (table.processes slot).generation

variable {table : Table} {slot : Nat}

theorem Named.resolve (named : Named table) (below : slot < maximumProcesses)
    (used : (table.processes slot).used = true) :
    table.resolve (table.processes slot).handle = .ok slot := by
  obtain ⟨index, generation⟩ := makeHandle_slot below (table.processes slot).generation
  unfold Table.resolve
  rw [named slot below used, index, generation, if_neg (not_le.mpr below),
    if_neg (by simp [used, named slot below used])]

variable {before after : Table}

theorem Thins.named (thins : Thins before after) (named : Named before) : Named after := by
  intro slot below used
  obtain ⟨wasUsed, handle, -⟩ := (thins slot).occupant used
  rw [handle, (thins slot).generation]
  exact named slot below wasUsed

theorem SpawnOutcome.named {parent : Option Nat} {request : SpawnRequest} {group : SpawnGroup}
    {result : Except Error Nat} (outcome : SpawnOutcome table parent request group result after)
    (named : Named table) : Named after := by
  cases outcome with
  | refused failure reuses nextPid => exact named
  | @accepted reuses nextPid parentSlot slot processGroup _ _ _ _ =>
    intro other below used
    obtain rfl | here := eq_or_ne other slot
    · unfold Table.install
      split
      · rw [modify_self]
        rfl
      · rw [modify_apply, modify_self]
        split
        · rfl
        · rfl
    · unfold Table.install at used ⊢
      dsimp only at used ⊢
      split at used
      · rename_i orphaned
        rw [if_pos orphaned, modify_other _ _ here]
        rw [modify_other _ _ here] at used
        exact named other below used
      · rename_i adopted
        rw [if_neg adopted, modify_apply, modify_other _ _ here]
        rw [modify_apply, modify_other _ _ here] at used
        split at used
        · rename_i isParent
          rw [if_pos isParent]
          exact named other below used
        · rename_i isOther
          rw [if_neg isOther]
          exact named other below used

theorem PublicOperation.apply_named (operation : PublicOperation) (named : Named table) :
    Named (operation.apply table) := by
  by_cases other : operation.spawns = false
  · exact (operation.apply_thins other table).named named
  · simp only [spawns] at other
    split at other
    · exact (spawnInternal_outcome _ _ .inherit table).named named
    · simp only [apply, Operation.apply, Table.spawnPipeline, bind_failWhen]
      split
      · exact named
      · exact (spawnInternal_outcome _ _ _ table).named named
    · exact absurd rfl other

theorem publicRun_named (run : PublicRun table) : Named table := by
  induction run with
  | initialized tick =>
    intro slot below used
    obtain rfl := initialized_alone used
    rfl
  | step operation _ hypothesis => exact operation.apply_named hypothesis

/-! ### What a signal leaves alone -/

/-- Who has the slots and whom he belongs to is the same, and nobody else has ended. -/
structure Spares (slot : Nat) (before after : Table) : Prop where
  used : ∀ other, (after.processes other).used = (before.processes other).used
  handle : ∀ other, (after.processes other).handle = (before.processes other).handle
  generation : ∀ other, (after.processes other).generation = (before.processes other).generation
  uid : ∀ other, (after.processes other).uid = (before.processes other).uid
  terminal : ∀ other ≠ slot, (after.processes other).terminal = (before.processes other).terminal

instance (slot : Nat) : Std.Refl (Spares slot) where
  refl _ := ⟨fun _ => rfl, fun _ => rfl, fun _ => rfl, fun _ => rfl, fun _ _ => rfl⟩

instance (slot : Nat) : IsTrans Table (Spares slot) where
  trans _ _ _ first second :=
    ⟨fun other => (second.used other).trans (first.used other),
      fun other => (second.handle other).trans (first.handle other),
      fun other => (second.generation other).trans (first.generation other),
      fun other => (second.uid other).trans (first.uid other),
      fun other apart => (second.terminal other apart).trans (first.terminal other apart)⟩

/-- Who somebody is. -/
def Process.identity (process : Process) : Bool × Nat × Nat × Nat :=
  (process.used, process.handle, process.generation, process.uid)

section Spares

variable {slot : Nat} {before after : Table}

theorem spares_of_identity
    (same : ∀ other, (after.processes other).identity = (before.processes other).identity)
    (terminal : ∀ other ≠ slot, (after.processes other).terminal = (before.processes other).terminal) :
    Spares slot before after :=
  ⟨fun other => congrArg (fun identity => identity.1) (same other),
    fun other => congrArg (fun identity => identity.2.1) (same other),
    fun other => congrArg (fun identity => identity.2.2.1) (same other),
    fun other => congrArg (fun identity => identity.2.2.2) (same other), terminal⟩

/-- A change of the slot itself. -/
theorem spares_modify {step : Process → Process} (same : ∀ process, (step process).identity = process.identity)
    (table : Table) : Spares slot table (table.modify slot step) := by
  refine spares_of_identity (fun other => ?_) fun other apart => ?_
  · rw [modify_apply]
    split
    · exact same _
    · rfl
  · rw [modify_other _ _ apart]

/-- A change of any slot that ends nobody. -/
theorem spares_modify_other {changed : Nat} {step : Process → Process}
    (same : (step (table.processes changed)).identity = (table.processes changed).identity)
    (terminal : (step (table.processes changed)).terminal = (table.processes changed).terminal) :
    Spares slot table (table.modify changed step) := by
  refine spares_of_identity (fun other => ?_) fun other _ => ?_
  · rw [modify_apply]
    split
    · rename_i here
      rwa [here]
    · rfl
  · rw [modify_apply]
    split
    · rename_i here
      rwa [here]
    · rfl

/-- The counters of the table do not matter. -/
theorem Spares.counted {other : Table} (spares : Spares slot before after)
    (same : other.processes = after.processes) : Spares slot before other := by
  refine ⟨?_, ?_, ?_, ?_, ?_⟩
  · rw [same]
    exact spares.used
  · rw [same]
    exact spares.handle
  · rw [same]
    exact spares.generation
  · rw [same]
    exact spares.uid
  · rw [same]
    exact spares.terminal

theorem reparentChildren_spares (table : Table) (dead : Nat) :
    Spares slot table (table.reparentChildren dead) := by
  unfold Table.reparentChildren
  split
  · exact refl table
  · refine IsTrans.trans _ _ _ (IsTrans.trans _ _ _ (spares_of_identity (fun other => ?_) fun other _ => ?_)
      (spares_modify_other rfl rfl)) (spares_modify_other rfl rfl)
    · unfold Table.modifyWhere
      dsimp only
      split
      · rfl
      · rfl
    · unfold Table.modifyWhere
      dsimp only
      split
      · rfl
      · rfl

theorem wakeParent_spares (table : Table) (child : Nat) : Spares slot table (table.wakeParent child) := by
  unfold wakeParent
  dsimp only
  split
  · exact refl table
  · split
    · exact refl table
    · rename_i blocked
      split
      · exact refl table
      · refine spares_modify_other rfl ?_
        rw [not_or, not_not] at blocked
        unfold Process.terminal
        rw [blocked.1]
        rfl

theorem Spares.resolve (spares : Spares slot before after) (handle : Nat) :
    after.resolve handle = before.resolve handle := by
  unfold Table.resolve
  dsimp only
  rw [spares.used, spares.generation, spares.handle]

end Spares

/-! ### Signals -/

section Signals

variable {table : Table} {sender target signal slot handle : Nat}

theorem exit_ok (resolved : table.resolve handle = .ok slot)
    (alive : (table.processes slot).terminal = false) (status : Nat) :
    ∃ after, exit handle status table = (.ok (), after) ∧ Spares slot table after ∧
      after.totalSignals = table.totalSignals := by
  unfold exit
  rw [bind_state, resolved, bind_lift_ok, bind_failWhen, if_neg (by rw [alive]; decide)]
  refine ⟨_, rfl, ?_, ?_⟩
  · refine IsTrans.trans _ _ _ (IsTrans.trans _ _ _ ?_ (reparentChildren_spares _ slot))
      (wakeParent_spares _ slot)
    let zombie := table.modify slot fun process =>
      { process with state := .zombie, exitStatus := status }
    have marked : Spares slot table zombie := by
      refine spares_modify ?_ table
      exact fun _ => rfl
    have numbered : Spares slot zombie (zombie.recordTerminalSequence slot) := by
      refine Spares.counted (@spares_modify slot (fun process =>
        { process with terminalSequence := zombie.nextTerminalSequence }) ?_ zombie) rfl
      exact fun _ => rfl
    refine IsTrans.trans _ _ _ (IsTrans.trans _ _ _ marked numbered) (spares_modify ?_ _)
    exact fun _ => rfl
  · unfold wakeParent reparentChildren
    dsimp only
    split_ifs <;> split <;> rfl

theorem stop_ok (resolved : table.resolve handle = .ok slot)
    (alive : (table.processes slot).terminal = false) :
    ∃ after, stop handle table = (.ok (), after) ∧ Spares slot table after ∧
      after.totalSignals = table.totalSignals := by
  unfold stop
  rw [bind_state, resolved, bind_lift_ok, bind_failWhen, if_neg (by rw [alive]; decide)]
  refine ⟨_, rfl, spares_modify ?_ table, rfl⟩
  exact fun _ => rfl

theorem continueProcess_ok (resolved : table.resolve handle = .ok slot)
    (stopped : (table.processes slot).state = .stopped) :
    ∃ after, continueProcess handle table = (.ok (), after) ∧ Spares slot table after ∧
      after.totalSignals = table.totalSignals := by
  unfold continueProcess
  rw [bind_state, resolved, bind_lift_ok, bind_failWhen, if_neg (not_not.mpr stopped)]
  refine ⟨_, rfl, spares_modify ?_ table, rfl⟩
  exact fun _ => rfl

theorem interrupt_identity (process : Process) : (interrupt process).identity = process.identity := by
  unfold interrupt
  split
  · rfl
  · rfl

/-- A signal that gets through is counted, and touches nobody but its target. -/
theorem sendSignal_ok (valid : 0 < signal ∧ signal < 64) (delivers : Delivers table sender target) :
    ∃ after slot, table.resolve target = .ok slot ∧
      sendSignal sender target signal table = (.ok (), after) ∧ Spares slot table after ∧
        after.totalSignals = wrapIncrement 64 table.totalSignals := by
  obtain ⟨senderSlot, slot, isSender, isTarget, alive, permitted⟩ := delivers
  let struck : Table := { table.modify slot (Process.addPending signal) with
    totalSignals := wrapIncrement 64 table.totalSignals }
  have spares : Spares slot table struck := by
    refine Spares.counted (@spares_modify slot (Process.addPending signal) ?_ table) rfl
    exact fun _ => rfl
  have stillTarget : struck.resolve target = .ok slot := (spares.resolve target).trans isTarget
  have entry : struck.processes slot = Process.addPending signal (table.processes slot) :=
    modify_self table slot _
  have stillAlive : (struck.processes slot).terminal = false := by
    rwa [entry]
  have further {step : Call Error Table Unit} (result : ∃ after, step struck = (.ok (), after) ∧
      Spares slot struck after ∧ after.totalSignals = struck.totalSignals) :
      ∃ after, step struck = (.ok (), after) ∧ Spares slot table after ∧
        after.totalSignals = wrapIncrement 64 table.totalSignals := by
    obtain ⟨after, ran, more, counted⟩ := result
    exact ⟨after, ran, Trans.trans spares more, counted⟩
  have refusal : ¬ ((table.processes senderSlot).uid ≠ 0 ∧
      (table.processes senderSlot).uid ≠ (table.processes slot).uid) := by
    rwa [not_and_or, not_not, not_not]
  have marked : (change fun table : Table =>
      { table.modify slot (Process.addPending signal) with
        totalSignals := wrapIncrement 64 table.totalSignals } : TableCall Unit) table = (.ok (), struck) := rfl
  suffices rest : ∃ after, ((if signal = 9 then exit target (128 + signal)
      else if signal = 19 then stop target
      else if signal = 18 ∧ (table.processes slot).state = .stopped then continueProcess target
      else change fun table => table.modify slot interrupt) : TableCall Unit) struck =
        (.ok (), after) ∧ Spares slot table after ∧
          after.totalSignals = wrapIncrement 64 table.totalSignals by
    obtain ⟨after, ran, more, counted⟩ := rest
    refine ⟨after, slot, isTarget, ?_, more, counted⟩
    unfold sendSignal
    rw [bind_failWhen, if_neg (by omega), bind_state, isSender, bind_lift_ok, isTarget,
      bind_lift_ok, bind_failWhen, if_neg (by rw [alive]; decide), bind_failWhen,
      if_neg refusal, bind_of_ok marked]
    exact ran
  split_ifs with kills stops continues
  · exact further (exit_ok stillTarget stillAlive _)
  · exact further (stop_ok stillTarget stillAlive)
  · refine further (continueProcess_ok stillTarget ?_)
    rw [entry]
    exact continues.2
  · exact further ⟨_, rfl, spares_modify interrupt_identity struck, rfl⟩

/-- A signal that does not get through changes nothing. -/
theorem sendSignal_refused (refused : ¬ ((0 < signal ∧ signal < 64) ∧ Delivers table sender target)) :
    ∃ failure, sendSignal sender target signal table = (.error failure, table) := by
  unfold sendSignal
  rw [bind_failWhen]
  by_cases invalid : signal = 0 ∨ signal ≥ 64
  · rw [if_pos invalid]
    exact ⟨_, rfl⟩
  · rw [if_neg invalid, bind_state]
    rcases isSender : table.resolve sender with failure | senderSlot
    · exact ⟨failure, by rw [bind_lift_error]⟩
    · rcases isTarget : table.resolve target with failure | slot
      · exact ⟨failure, by rw [bind_lift_ok, bind_lift_error]⟩
      · rw [bind_lift_ok, bind_lift_ok, bind_failWhen]
        by_cases ended : (table.processes slot).terminal = true
        · rw [if_pos ended]
          exact ⟨_, rfl⟩
        · rw [if_neg ended, bind_failWhen]
          refine ⟨_, if_pos ?_⟩
          by_contra permitted
          rw [not_and_or, not_not, not_not] at permitted
          exact refused ⟨by omega, senderSlot, slot, isSender, isTarget, Bool.not_eq_true _ ▸ ended, permitted⟩

theorem sendSignal_atomic (table : Table) (sender target signal : Nat) :
    Atomic (sendSignal sender target signal) table := by
  by_cases goes : (0 < signal ∧ signal < 64) ∧ Delivers table sender target
  · obtain ⟨after, _, -, done, -⟩ := sendSignal_ok goes.1 goes.2
    exact atomic_of_ok done
  · obtain ⟨failure, refused⟩ := sendSignal_refused goes
    exact atomic_of_error refused

/-- Whether a signal gets through to the others does not depend on the signals before. -/
theorem Spares.delivers_iff {other : Nat} (spares : Spares slot before after)
    (isTarget : before.resolve target = .ok slot) (apart : other ≠ target) :
    Delivers after sender other ↔ Delivers before sender other := by
  unfold Delivers
  rw [spares.resolve, spares.resolve]
  refine exists_congr fun senderSlot => exists_congr fun otherSlot => and_congr_right fun _ =>
    and_congr_right fun isOther => ?_
  have different : otherSlot ≠ slot := by
    rintro rfl
    exact apart ((resolve_ok isOther).2.2.1.symm.trans (resolve_ok isTarget).2.2.1)
  rw [spares.terminal otherSlot different, spares.uid, spares.uid]

variable {targets : List Nat}

theorem signalEach_ok (valid : 0 < signal ∧ signal < 64) (distinct : targets.Nodup)
    (delivers : ∀ target ∈ targets, Delivers table sender target) :
    ∃ after, signalEach sender signal targets table = (.ok (), after) := by
  induction targets generalizing table with
  | nil => exact ⟨table, rfl⟩
  | cons target rest hypothesis =>
    obtain ⟨isFirst, others⟩ := nodup_cons.mp distinct
    obtain ⟨middle, slot, isTarget, done, spares, -⟩ :=
      sendSignal_ok valid (delivers target mem_cons_self)
    obtain ⟨after, ran⟩ := hypothesis others fun other among => by
      have apart : other ≠ target := by
        rintro rfl
        exact isFirst among
      rw [spares.delivers_iff isTarget apart]
      exact delivers other (mem_cons_of_mem _ among)
    refine ⟨after, ?_⟩
    unfold signalEach
    rwa [bind_of_ok done]

/-- A target that a signal does not get through to ends the round, after those before it. -/
theorem signalEach_refused (valid : 0 < signal ∧ signal < 64) (distinct : targets.Nodup)
    (refuses : ∃ target ∈ targets, ¬ Delivers table sender target) :
    ∃ failure after count, signalEach sender signal targets table = (.error failure, after) ∧
      count < targets.length ∧ after.totalSignals = (wrapIncrement 64)^[count] table.totalSignals ∧
        (Delivers table sender (targets.headD 0) → 0 < count) := by
  induction targets generalizing table with
  | nil =>
    obtain ⟨_, among, -⟩ := refuses
    cases among
  | cons target rest hypothesis =>
    obtain ⟨isFirst, others⟩ := nodup_cons.mp distinct
    unfold signalEach
    by_cases goes : Delivers table sender target
    · obtain ⟨middle, slot, isTarget, done, spares, counted⟩ := sendSignal_ok valid goes
      obtain ⟨failure, after, count, ran, fewer, more, -⟩ := hypothesis others (by
        obtain ⟨other, among, refused⟩ := refuses
        have apart : other ≠ target := by
          rintro rfl
          exact refused goes
        refine ⟨other, (mem_cons.mp among).resolve_left apart, ?_⟩
        rw [spares.delivers_iff isTarget apart]
        exact refused)
      refine ⟨failure, after, count + 1, ?_, Nat.succ_lt_succ fewer, ?_, fun _ => Nat.succ_pos _⟩
      · rwa [bind_of_ok done]
      · rw [more, counted, Function.iterate_succ_apply]
    · obtain ⟨failure, refused⟩ := @sendSignal_refused table sender target signal fun both => goes both.2
      exact ⟨failure, table, 0, bind_of_error refused, Nat.succ_pos _, rfl, fun delivers => absurd delivers goes⟩

end Signals

/-! ### A signal to a group -/

/-- The slots of the live members of a process group. -/
def Table.members (table : Table) (group : Nat) : List Nat :=
  (List.range maximumProcesses).filter fun slot =>
    (table.processes slot).used && (table.processes slot).processGroup == group &&
      !(table.processes slot).terminal

/-- The sender may signal the first member of the group, and not some later one. -/
structure Mixed (table : Table) (sender group signal : Nat) : Prop where
  valid : 0 < signal ∧ signal < 64
  mixed : ∃ senderSlot first rest, table.resolve sender = .ok senderSlot ∧
    (table.processes senderSlot).uid ≠ 0 ∧ table.members group = first :: rest ∧
    (table.processes first).uid = (table.processes senderSlot).uid ∧
    ∃ other ∈ rest, (table.processes other).uid ≠ (table.processes senderSlot).uid

section Group

variable {table : Table} {sender group signal : Nat}

theorem groupTargets_eq (table : Table) (group : Nat) :
    table.groupTargets group = (table.members group).map fun slot => (table.processes slot).handle := rfl

theorem mem_members (among : slot ∈ table.members group) :
    slot < maximumProcesses ∧ (table.processes slot).used = true ∧
      (table.processes slot).terminal = false := by
  unfold Table.members at among
  simp only [mem_filter, mem_range, Bool.and_eq_true, Bool.not_eq_true'] at among
  exact ⟨among.1, among.2.1.1, among.2.2⟩

theorem Named.groupTargets_nodup (named : Named table) (group : Nat) : (table.groupTargets group).Nodup := by
  refine List.Nodup.map_on (fun first firstAmong second secondAmong same => ?_)
    (nodup_range.filter _)
  obtain ⟨firstBelow, firstUsed, -⟩ := mem_members firstAmong
  obtain ⟨secondBelow, secondUsed, -⟩ := mem_members secondAmong
  have found := named.resolve firstBelow firstUsed
  rw [same, named.resolve secondBelow secondUsed] at found
  exact (Except.ok.inj found).symm

/-- Whether a signal gets through to a member is up to the users. -/
theorem Named.delivers_iff (named : Named table) {senderSlot : Nat}
    (isSender : table.resolve sender = .ok senderSlot) (among : slot ∈ table.members group) :
    Delivers table sender (table.processes slot).handle ↔ (table.processes senderSlot).uid = 0 ∨
      (table.processes senderSlot).uid = (table.processes slot).uid := by
  obtain ⟨below, used, alive⟩ := mem_members among
  have isTarget := named.resolve below used
  constructor
  · rintro ⟨firstSlot, secondSlot, isFirst, isSecond, -, permitted⟩
    cases (isSender.symm.trans isFirst)
    cases (isTarget.symm.trans isSecond)
    exact permitted
  · intro permitted
    exact ⟨senderSlot, slot, isSender, isTarget, alive, permitted⟩

theorem iterate_wrapIncrement_ne {count value : Nat} (positive : 0 < count) (few : count < 2 ^ 64) :
    (wrapIncrement 64)^[count] value ≠ value := by
  have iterated : ∀ count value, (wrapIncrement 64)^[count + 1] value = (value + (count + 1)) % 2 ^ 64 := by
    intro count
    induction count with
    | zero => exact fun value => rfl
    | succ count hypothesis =>
      intro value
      rw [Function.iterate_succ_apply, hypothesis, wrapIncrement]
      omega
  obtain ⟨before, rfl⟩ := Nat.exists_eq_succ_of_ne_zero positive.ne'
  rw [iterated]
  omega

/-- A signal to a group fails halfway exactly if its members are mixed. -/
theorem sendGroupSignal_atomic_iff (named : Named table) :
    Atomic (sendGroupSignal sender group signal) table ↔ ¬ Mixed table sender group signal := by
  have distinct := named.groupTargets_nodup group
  rcases listed : table.members group with _ | ⟨first, rest⟩
  · refine iff_of_true (@atomic_of_ok _ _ _ _ _ 0 table ?_) ?_
    · unfold sendGroupSignal
      rw [bind_state, groupTargets_eq, listed]
      rfl
    · rintro ⟨-, _, _, _, -, -, nonempty, -⟩
      rw [listed] at nonempty
      cases nonempty
  have targets : table.groupTargets group = (table.processes first).handle ::
      rest.map fun slot => (table.processes slot).handle := by
    rw [groupTargets_eq, listed]
    rfl
  have firstAmong : first ∈ table.members group := by
    rw [listed]
    exact mem_cons_self
  have split : sendGroupSignal sender group signal table = (do
      signalEach sender signal (table.groupTargets group)
      return (table.groupTargets group).length : TableCall Nat) table := rfl
  by_cases starts : (0 < signal ∧ signal < 64) ∧ Delivers table sender (table.processes first).handle
  · obtain ⟨valid, goes⟩ := starts
    obtain ⟨senderSlot, isSender⟩ : ∃ senderSlot, table.resolve sender = .ok senderSlot :=
      ⟨goes.choose, goes.choose_spec.choose_spec.1⟩
    have permitted := (named.delivers_iff isSender firstAmong).mp goes
    by_cases all : ∀ target ∈ table.groupTargets group, Delivers table sender target
    · obtain ⟨after, done⟩ := signalEach_ok valid distinct all
      refine iff_of_true (@atomic_of_ok _ _ _ _ _ (table.groupTargets group).length after ?_) ?_
      · rw [split, bind_of_ok done]
        rfl
      · rintro ⟨-, otherSender, otherFirst, otherRest, isOther, notRoot, otherListed, -, member, among, differs⟩
        cases (isSender.symm.trans isOther)
        cases listed.symm.trans otherListed
        have isMember : member ∈ table.members group := by
          rw [listed]
          exact mem_cons_of_mem _ among
        have reached := all (table.processes member).handle (by
          exact mem_map_of_mem isMember)
        rw [named.delivers_iff isSender isMember] at reached
        exact reached.elim notRoot fun same => differs same.symm
    · push Not at all
      obtain ⟨failure, after, count, refused, fewer, counted, some⟩ := signalEach_refused valid distinct all
      have few : count < 2 ^ 64 := by
        have members : (table.groupTargets group).length ≤ maximumProcesses := by
          rw [groupTargets_eq, length_map]
          exact (length_filter_le _ _).trans_eq length_range
        unfold maximumProcesses at members
        omega
      have positive : 0 < count := some (by
        rw [targets]
        exact goes)
      refine iff_of_false (@not_atomic_of_error _ _ _ _ _ failure after ?_ ?_) (not_not.mpr ⟨valid, ?_⟩)
      · rw [split, bind_of_error refused]
      · intro same
        rw [same] at counted
        exact iterate_wrapIncrement_ne positive few counted.symm
      · obtain ⟨target, among, unreached⟩ := all
        rw [targets, mem_cons] at among
        obtain ⟨member, isMember, rfl⟩ := mem_map.mp (among.resolve_left fun here => by
          rw [here] at unreached
          exact unreached goes)
        have memberAmong : member ∈ table.members group := by
          rw [listed]
          exact mem_cons_of_mem _ isMember
        rw [named.delivers_iff isSender memberAmong, not_or] at unreached
        exact ⟨senderSlot, first, rest, isSender, unreached.1, listed,
          (permitted.resolve_left unreached.1).symm, member, isMember, fun same => unreached.2 same.symm⟩
  · obtain ⟨failure, refused⟩ := sendSignal_refused starts
    refine iff_of_true (@atomic_of_error _ _ _ _ _ failure ?_) ?_
    · have stopped : signalEach sender signal (table.groupTargets group) table = (.error failure, table) := by
        rw [targets]
        unfold signalEach
        rw [bind_of_error refused]
      rw [split, bind_of_error stopped]
    · rintro ⟨valid, senderSlot, otherFirst, otherRest, isSender, -, otherListed, same, -⟩
      cases listed.symm.trans otherListed
      exact starts ⟨valid, (named.delivers_iff isSender firstAmong).mpr (.inr same.symm)⟩

end Group

/-! ### Spawning -/

/-- A spawn gets as far as using up a pid, and its group or an argument is refused then. -/
structure Overspends (table : Table) (parent : Option Nat) (request : SpawnRequest) (group : SpawnGroup) :
    Prop where
  name : 0 < request.name.length ∧ request.name.length ≤ maximumNameLength
  arguments : request.arguments.length ≤ maximumArguments
  room : ∃ slot < maximumProcesses, (table.processes slot).used = false
  refused : ∃ parentSlot, table.resolveParent parent = .ok parentSlot ∧
    (parentSlot = invalidSlot ∨
      (table.processes parentSlot).childCount < (table.processes parentSlot).limits.maximumChildren) ∧
    ((table.spawnProcessGroup parentSlot table.nextPid group).isOk = false ∨
      ∃ argument ∈ request.arguments, maximumArgumentLength < argument.length)

theorem nextNonzero_ne (value : Nat) : nextNonzero 32 value ≠ value := by
  unfold nextNonzero wrapIncrement
  split
  · rintro rfl
    omega
  · omega

section Spawn

variable {table : Table} {parent : Option Nat} {request : SpawnRequest} {group : SpawnGroup}

theorem changed_of_nextPid (spent : after.nextPid = nextNonzero 32 table.nextPid) :
    after ≠ table := by
  rintro rfl
  exact nextNonzero_ne _ spent.symm

/-- What remains of a spawn when a slot has been found. -/
def spawnInto (table : Table) (parentSlot slot : Nat) (request : SpawnRequest) (group : SpawnGroup) :
    TableCall Nat := do
  change fun table =>
    { table with
      slotReuses := if (table.processes slot).generation ≠ 0
        then wrapIncrement 64 table.slotReuses else table.slotReuses
      nextPid := nextNonzero 32 table.nextPid }
  let processGroup ← lift (table.spawnProcessGroup parentSlot table.nextPid group)
  failWhen (∃ argument ∈ request.arguments, argument.length > maximumArgumentLength)
    .argumentTooLong
  let process := table.newProcess request slot parentSlot table.nextPid processGroup
  change fun table => table.install slot parentSlot process
  return process.handle

/-- From here on a spawn fails if its group or an argument is refused, and has then used up a pid. -/
theorem spawnInto_atomic_iff (table : Table) (parentSlot slot : Nat) (request : SpawnRequest)
    (group : SpawnGroup) :
    Atomic (spawnInto table parentSlot slot request group) table ↔
      ¬ ((table.spawnProcessGroup parentSlot table.nextPid group).isOk = false ∨
        ∃ argument ∈ request.arguments, maximumArgumentLength < argument.length) := by
  let spent : Table :=
    { table with
      slotReuses := if (table.processes slot).generation ≠ 0
        then wrapIncrement 64 table.slotReuses else table.slotReuses
      nextPid := nextNonzero 32 table.nextPid }
  have changed : spent ≠ table := changed_of_nextPid rfl
  have counted : (change fun table : Table =>
      { table with
        slotReuses := if (table.processes slot).generation ≠ 0
          then wrapIncrement 64 table.slotReuses else table.slotReuses
        nextPid := nextNonzero 32 table.nextPid } : TableCall Unit) table = (.ok (), spent) := rfl
  unfold spawnInto
  rcases isGroup : table.spawnProcessGroup parentSlot table.nextPid group with failure | processGroup
  · refine iff_of_false (@not_atomic_of_error _ _ _ _ _ failure spent ?_ changed) ?_
    · rw [bind_of_ok counted, bind_lift_error]
    · exact not_not.mpr (.inl rfl)
  · by_cases long : ∃ argument ∈ request.arguments, argument.length > maximumArgumentLength
    · refine iff_of_false (@not_atomic_of_error _ _ _ _ _ .argumentTooLong spent ?_ changed) ?_
      · rw [bind_of_ok counted, bind_lift_ok, bind_failWhen, if_pos long]
      · exact not_not.mpr (.inr long)
    · refine iff_of_true (@atomic_of_ok _ _ _ _ _
        (table.newProcess request slot parentSlot table.nextPid processGroup).handle
        (spent.install slot parentSlot
          (table.newProcess request slot parentSlot table.nextPid processGroup)) ?_) ?_
      · rw [bind_of_ok counted, bind_lift_ok, bind_failWhen, if_neg long]
        rfl
      · rintro (refused | tooLong)
        · cases refused
        · exact long tooLong

theorem spawnInternal_atomic_iff (table : Table) (parent : Option Nat) (request : SpawnRequest)
    (group : SpawnGroup) :
    Atomic (spawnInternal parent request group) table ↔ ¬ Overspends table parent request group := by
  unfold spawnInternal
  by_cases unnamed : request.name.length = 0 ∨ request.name.length > maximumNameLength
  · refine iff_of_true (atomic_failWhen fun named => absurd unnamed named) fun spends => ?_
    have name := spends.name
    omega
  by_cases many : request.arguments.length > maximumArguments
  · refine iff_of_true (atomic_failWhen fun _ => atomic_failWhen fun few => absurd many few)
      fun spends => absurd spends.arguments (not_le.mpr many)
  unfold Atomic
  simp only [bind_failWhen, if_neg unnamed, if_neg many, bind_state]
  rcases isParent : table.resolveParent parent with failure | parentSlot
  · refine iff_of_true (fun _ _ failed => (congrArg Prod.snd failed).symm) fun spends => ?_
    obtain ⟨_, resolved, -⟩ := spends.refused
    rw [isParent] at resolved
    cases resolved
  rw [bind_lift_ok, bind_failWhen]
  by_cases full : parentSlot ≠ invalidSlot ∧ (table.processes parentSlot).childCount ≥
      (table.processes parentSlot).limits.maximumChildren
  · rw [if_pos full]
    refine iff_of_true (fun _ _ failed => (congrArg Prod.snd failed).symm) fun spends => ?_
    obtain ⟨_, resolved, quota, -⟩ := spends.refused
    cases (isParent.symm.trans resolved)
    exact quota.elim full.1 (not_lt.mpr full.2)
  rw [if_neg full]
  rcases isSlot : firstIndex maximumProcesses fun slot => !(table.processes slot).used with _ | slot
  · refine iff_of_true (fun _ _ failed => (congrArg Prod.snd failed).symm) fun spends => ?_
    obtain ⟨slot, below, free⟩ := spends.room
    have used := firstIndex_eq_none.mp isSlot slot below
    rw [free] at used
    cases used
  refine (spawnInto_atomic_iff table parentSlot slot request group).trans (not_congr ?_)
  constructor
  · intro refused
    refine ⟨by omega, not_lt.mp many, ⟨slot, firstIndex_lt isSlot, ?_⟩, parentSlot, isParent, ?_, refused⟩
    · have free := firstIndex_test isSlot
      rwa [Bool.not_eq_true'] at free
    · by_cases orphaned : parentSlot = invalidSlot
      · exact .inl orphaned
      · rw [not_and, ge_iff_le, not_le] at full
        exact .inr (full orphaned)
  · intro spends
    obtain ⟨_, resolved, -, refused⟩ := spends.refused
    cases (isParent.symm.trans resolved)
    exact refused

end Spawn

/-! ### All calls -/

inductive Request where
  | spawn (parent : Option Nat) (request : SpawnRequest)
  | spawnPipeline (parent : Nat) (request : SpawnRequest) (group : SpawnGroup)
  | sendSignal (sender target signal : Nat)
  | sendGroupSignal (sender group signal : Nat)
  | wait (parent : Nat) (target : Option Nat) (nonblocking : Bool)
  | waitGroup (parent group : Nat) (nonblocking : Bool)
  | stop (handle : Nat)
  | continueProcess (handle : Nat)
  | exit (handle status : Nat)
  | fault (handle vector address : Nat)
  | setProcessGroup (caller target group : Nat)
  | setResourceUsage (handle pages descriptors sockets : Nat)

/-- What the call returns, if it succeeds. -/
inductive Answer where
  | nothing
  | number (value : Nat)
  | status (status : Option Status)
  deriving DecidableEq

def Request.call : Request → TableCall Answer
  | .spawn parent request => do return .number (← Table.spawn parent request)
  | .spawnPipeline parent request group => do return .number (← Table.spawnPipeline parent request group)
  | .sendSignal sender target signal => do
    Table.sendSignal sender target signal
    return .nothing
  | .sendGroupSignal sender group signal => do return .number (← Table.sendGroupSignal sender group signal)
  | .wait parent target nonblocking => do return .status (← Table.wait parent target nonblocking)
  | .waitGroup parent group nonblocking => do return .status (← Table.waitGroup parent group nonblocking)
  | .stop handle => do
    Table.stop handle
    return .nothing
  | .continueProcess handle => do
    Table.continueProcess handle
    return .nothing
  | .exit handle status => do
    Table.exit handle status
    return .nothing
  | .fault handle vector address => do
    Table.fault handle vector address
    return .nothing
  | .setProcessGroup caller target group => do
    Table.setProcessGroup caller target group
    return .nothing
  | .setResourceUsage handle pages descriptors sockets => do
    Table.setResourceUsage handle pages descriptors sockets
    return .nothing

/-- The call can fail when it has changed something already. -/
def Request.Leaves (table : Table) : Request → Prop
  | .spawn parent request => Overspends table parent request .inherit
  | .spawnPipeline parent request group =>
    group ≠ .inherit ∧ Overspends table (some parent) request group
  | .sendGroupSignal sender group signal => Mixed table sender group signal
  | _ => False

section Requests

variable {table : Table}

theorem reapSlot_atomic (table : Table) (parentSlot slot : Nat) :
    Atomic (reapSlot parentSlot slot) table :=
  atomic_state (atomic_failWhen fun _ => atomic_failWhen fun _ =>
    atomic_bind_pure (atomic_change _))

theorem wait_atomic (table : Table) (parent : Nat) (target : Option Nat) (nonblocking : Bool) :
    Atomic (wait parent target nonblocking) table := by
  refine atomic_state (atomic_lift fun parentSlot _ => ?_)
  cases table.waitCandidate parentSlot target with
  | some slot => exact atomic_bind_pure (reapSlot_atomic table parentSlot slot)
  | none => exact atomic_failWhen fun _ => atomic_bind_pure (atomic_change _)

theorem waitGroup_atomic (table : Table) (parent group : Nat) (nonblocking : Bool) :
    Atomic (waitGroup parent group nonblocking) table := by
  refine atomic_failWhen fun _ => atomic_state (atomic_lift fun parentSlot _ => ?_)
  cases table.earliestTerminal parentSlot (groupFilter group) with
  | some slot => exact atomic_bind_pure (reapSlot_atomic table parentSlot slot)
  | none => exact atomic_failWhen fun _ => atomic_bind_pure (atomic_change _)

/-- A call that finds its process, makes one check and changes it. -/
theorem checked_atomic (table : Table) (resolved : Except Error Nat) (refuses : Nat → Prop)
    [DecidablePred refuses] (failure : Error) (step : Nat → Table → Table) :
    Atomic (do
      let slot ← lift resolved
      failWhen (refuses slot) failure
      change (step slot) : TableCall Unit) table :=
  atomic_lift fun _ _ => atomic_failWhen fun _ => atomic_change _

theorem atomic_congr {Value Next : Type} {call : TableCall Value} {result : Value → Next} :
    Atomic (call >>= fun value => (pure (result value) : TableCall Next)) table ↔
      Atomic call table := by
  refine ⟨fun atomic failure after failed => ?_, atomic_bind_pure⟩
  exact atomic failure after (bind_of_error failed)

/-- A call that fails leaves the table as it was, exactly if it is none of these. -/
theorem request_atomic_iff (run : PublicRun table) (request : Request) :
    (∀ failure after, request.call table = (.error failure, after) → after = table) ↔
      ¬ request.Leaves table := by
  have named := publicRun_named run
  cases request with
  | spawn parent request =>
    exact atomic_congr.trans (spawnInternal_atomic_iff table parent request .inherit)
  | spawnPipeline parent request group =>
    refine atomic_congr.trans ?_
    by_cases inherits : group = .inherit
    · exact iff_of_true (atomic_failWhen fun pipeline => absurd inherits pipeline) fun leaves =>
        leaves.1 inherits
    · have same : Atomic (spawnPipeline parent request group) table ↔
          Atomic (spawnInternal (some parent) request group) table := by
        unfold Table.spawnPipeline Atomic
        rw [bind_failWhen, if_neg inherits]
      rw [same, spawnInternal_atomic_iff]
      exact not_congr (and_iff_right inherits).symm
  | sendGroupSignal sender group signal => exact atomic_congr.trans (sendGroupSignal_atomic_iff named)
  | sendSignal sender target signal =>
    exact iff_of_true (atomic_bind_pure (sendSignal_atomic table sender target signal)) id
  | wait parent target nonblocking =>
    exact iff_of_true (atomic_bind_pure (wait_atomic table parent target nonblocking)) id
  | waitGroup parent group nonblocking =>
    exact iff_of_true (atomic_bind_pure (waitGroup_atomic table parent group nonblocking)) id
  | stop handle =>
    exact iff_of_true (atomic_bind_pure (atomic_state (checked_atomic table _ _ _ _))) id
  | continueProcess handle =>
    exact iff_of_true (atomic_bind_pure (atomic_state (checked_atomic table _ _ _ _))) id
  | exit handle status =>
    exact iff_of_true (atomic_bind_pure (atomic_state (checked_atomic table _ _ _ _))) id
  | fault handle vector address =>
    exact iff_of_true (atomic_bind_pure (atomic_state (checked_atomic table _ _ _ _))) id
  | setProcessGroup caller target group =>
    exact iff_of_true (atomic_bind_pure (atomic_state (atomic_lift fun _ _ =>
      checked_atomic table _ _ _ _))) id
  | setResourceUsage handle pages descriptors sockets =>
    exact iff_of_true (atomic_bind_pure (atomic_state (checked_atomic table _ _ _ _))) id

end Requests

/-! ### A pipeline of two users -/

/-- Two processes of one group that belong to different users. -/
def pipelineRun : List PublicOperation := [
  .core (.spawnPipeline 0x100000000 { name := [97], uid := 1000 } .newPipeline),
  .core (.spawnPipeline 0x100000000 { name := [98], uid := 2000 } (.joinPipeline 2))]

def pipelineTable : Table := pipelineRun.foldl apply (Table.initialized 0)

theorem publicRun_pipelineTable : PublicRun pipelineTable := by
  unfold pipelineTable pipelineRun
  rw [foldl_cons, foldl_cons, foldl_nil]
  exact .step _ (.step _ (.initialized 0))

/-- A spawn that is refused for its argument takes a pid, and a signal that is refused for the second
member of a group has reached the first. -/
theorem refusedCalls_leave_traces : PublicRun pipelineTable ∧
      (Request.call (.spawn none { name := [99], arguments := [List.replicate 32 97] }) pipelineTable).1 =
        .error .argumentTooLong ∧
      pipelineTable.nextPid = 4 ∧
      (Request.call (.spawn none { name := [99], arguments := [List.replicate 32 97] })
        pipelineTable).2.nextPid = 5 ∧
      (Request.call (.sendGroupSignal 0x100000001 2 15) pipelineTable).1 = .error .permissionDenied ∧
      (pipelineTable.processes 1).pendingSignals = 0 ∧
      ((Request.call (.sendGroupSignal 0x100000001 2 15) pipelineTable).2.processes 1).pendingSignals =
        2 ^ 15 :=
  ⟨publicRun_pipelineTable, by decide +kernel, by decide +kernel, by decide +kernel, by decide +kernel,
    by decide +kernel, by decide +kernel⟩

theorem pipelineTable_atomic_iff :
    (∀ failure after, Request.call (.sendGroupSignal 0x100000001 2 15) pipelineTable =
        (.error failure, after) → after = pipelineTable) ↔
      ¬ (Request.sendGroupSignal 0x100000001 2 15).Leaves pipelineTable :=
  request_atomic_iff publicRun_pipelineTable _

end ZigOs.RuntimeProcess
