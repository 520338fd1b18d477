/-
This file proves when process identifiers are unique. The counter of pids skips
zero but looks at nobody: after `2 ^ 32 - 1` pids it comes round, and init and
every other long-lived process still has its own. A spawn uses up a pid even
when it is refused afterwards, so a process can turn the counter round alone.
As long as no accepted spawn takes a pid that somebody has, or the pid of init,
a pid names one process, and whoever is looked up by it is that process.
-/

import ZigOs.RuntimeProcess.Reaping

namespace ZigOs.RuntimeProcess

open Scan Table PublicOperation

/-- The pid of the first process. -/
def initPid : Nat := 1

/-- A pid names one process, init's names the process that was made first, and whoever is looked up,
signalled or waited for by a pid is the process that has it. -/
structure UniquePids (table : Table) : Prop where
  distinct : DistinctPids table
  initOnly : ∀ slot < maximumProcesses, (table.processes slot).used = true →
    (table.processes slot).pid = initPid → (table.processes slot).handle = makeHandle 0 1
  found : ∀ slot < maximumProcesses, (table.processes slot).used = true →
    table.findPid (table.processes slot).pid = some slot
  signalled : ∀ slot < maximumProcesses, (table.processes slot).used = true →
    table.handleForPid (table.processes slot).pid = .ok (table.processes slot).handle
  awaited : ∀ parent pid handle, pid ≠ 0 → table.childForWait parent pid = .ok (some handle) →
    ∀ slot < maximumProcesses, (table.processes slot).used = true →
      (table.processes slot).pid = pid → (table.processes slot).handle = handle

/-- Nobody but init has its pid. -/
def InitAlone (table : Table) : Prop :=
  ∀ slot < maximumProcesses, (table.processes slot).used = true →
    (table.processes slot).pid = initPid → (table.processes slot).handle = makeHandle 0 1

variable {table : Table} {slot : Nat}

theorem DistinctPids.findPid (distinct : DistinctPids table) (below : slot < maximumProcesses)
    (used : (table.processes slot).used = true) :
    table.findPid (table.processes slot).pid = some slot := by
  have test : ((table.processes slot).used &&
      (table.processes slot).pid == (table.processes slot).pid) = true := by simp [used]
  obtain ⟨first, isFirst⟩ := @exists_firstIndex _ _ (fun other => (table.processes other).used &&
    (table.processes other).pid == (table.processes slot).pid) below test
  have holds := firstIndex_test isFirst
  simp only [Bool.and_eq_true, beq_iff_eq] at holds
  obtain rfl := distinct first (firstIndex_lt isFirst) slot below holds.1 used holds.2
  exact isFirst

theorem DistinctPids.childForWait (distinct : DistinctPids table) {parent pid handle : Nat}
    (real : pid ≠ 0) (chosen : table.childForWait parent pid = .ok (some handle))
    (below : slot < maximumProcesses) (used : (table.processes slot).used = true)
    (named : (table.processes slot).pid = pid) : (table.processes slot).handle = handle := by
  unfold Table.childForWait at chosen
  split at chosen
  · cases chosen
  · rw [if_neg real] at chosen
    split at chosen
    · cases chosen
    · rename_i first isFirst
      have holds := firstIndex_test isFirst
      simp only [Table.isChild, Bool.and_eq_true, beq_iff_eq] at holds
      obtain rfl := distinct first (firstIndex_lt isFirst) slot below holds.1.1 used
        (holds.2.trans named.symm)
      exact Option.some.inj (Except.ok.inj chosen)

theorem DistinctPids.unique (distinct : DistinctPids table)
    (alone : InitAlone table) : UniquePids table where
  distinct := distinct
  initOnly := alone
  found slot below used := distinct.findPid below used
  signalled slot below used := by
    unfold Table.handleForPid
    rw [distinct.findPid below used]
  awaited parent pid handle real chosen slot below used named :=
    distinct.childForWait real chosen below used named

/-! ### What a step does to the pids -/

/-- A spawn that is accepted takes a pid that is not init's. -/
def SpawnsBesideInit (table : Table) (parent : Option Nat) (request : SpawnRequest)
    (group : SpawnGroup) : Prop :=
  ∀ parentSlot, table.resolveParent parent = .ok parentSlot →
    SpawnAccepted table parentSlot request group → table.nextPid ≠ initPid

def PublicOperation.BesideInit (table : Table) : PublicOperation → Prop
  | .core (.spawn parent request) => SpawnsBesideInit table parent request .inherit
  | .core (.spawnPipeline parent request group) =>
    group ≠ .inherit → SpawnsBesideInit table (some parent) request group
  | _ => True

/-- The operation gives out no pid that somebody has, and not the pid of init. -/
def PublicOperation.GivesNewPid (table : Table) (operation : PublicOperation) : Prop :=
  operation.FreshPid table ∧ operation.BesideInit table

variable {after : Table}

theorem Thins.initAlone {before : Table} (thins : Thins before after)
    (alone : InitAlone before) : InitAlone after := by
  intro slot below used named
  obtain ⟨wasUsed, handle, pid⟩ := (thins slot).occupant used
  exact handle.trans (alone slot below wasUsed (pid.symm.trans named))

theorem install_handle (table : Table) {other : Nat} (parentSlot : Nat) (process : Process)
    (different : other ≠ slot) : ((table.install slot parentSlot process).processes other).handle =
      (table.processes other).handle := by
  unfold Table.install
  dsimp only
  split
  · rw [modify_apply, if_neg different]
  · rw [modify_apply, modify_apply, if_neg different]
    split <;> rfl

theorem SpawnOutcome.initAlone {parent : Option Nat} {request : SpawnRequest} {group : SpawnGroup}
    {result : Except Error Nat} (outcome : SpawnOutcome table parent request group result after)
    (beside : SpawnsBesideInit table parent request group) (alone : InitAlone table) :
    InitAlone after := by
  cases outcome with
  | refused failure reuses nextPid => exact alone
  | @accepted reuses nextPid parentSlot slot processGroup resolved accepts _ _ =>
    have another := beside parentSlot resolved accepts
    intro other below used named
    obtain ⟨isUsed, hasPid⟩ := install_occupant { table with slotReuses := reuses, nextPid } slot
      parentSlot (table.newProcess request slot parentSlot table.nextPid processGroup) other
    rw [isUsed] at used
    rw [hasPid] at named
    by_cases here : other = slot
    · rw [if_pos here] at named
      exact absurd named another
    · rw [if_neg here] at used named
      exact (install_handle _ parentSlot _ here).trans (alone other below used named)

theorem PublicOperation.apply_initAlone (operation : PublicOperation)
    (beside : operation.BesideInit table) (alone : InitAlone table) :
    InitAlone (operation.apply table) := by
  by_cases other : operation.spawns = false
  · exact (operation.apply_thins other table).initAlone alone
  · simp only [spawns] at other
    split at other
    · exact (spawnInternal_outcome _ _ .inherit table).initAlone beside alone
    · simp only [apply, Operation.apply, Table.spawnPipeline, Call.bind_failWhen]
      split
      · exact alone
      · rename_i pipeline
        exact (spawnInternal_outcome _ _ _ table).initAlone (beside pipeline) alone
    · exact absurd rfl other

/-! ### Runs -/

/-- The runs of the process table, whatever is called. -/
inductive PublicRun : Table → Prop where
  | initialized (tick : Nat) : PublicRun (Table.initialized tick)
  | step {table : Table} (operation : PublicOperation) :
      PublicRun table → PublicRun (operation.apply table)

/-- The runs whose steps give out new pids only. -/
inductive NewPidRun : Table → Prop where
  | initialized (tick : Nat) : NewPidRun (Table.initialized tick)
  | step {table : Table} (operation : PublicOperation) :
      NewPidRun table → operation.GivesNewPid table → NewPidRun (operation.apply table)

/-- In a run whose steps give out new pids only, a pid is one process. -/
theorem newPidRun_uniquePids {table : Table} (run : NewPidRun table) : UniquePids table := by
  suffices both : DistinctPids table ∧ InitAlone table from both.1.unique both.2
  induction run with
  | initialized tick =>
    refine ⟨fun first _ second _ firstUsed secondUsed _ => ?_, fun slot _ used _ => ?_⟩
    · rw [initialized_alone firstUsed, initialized_alone secondUsed]
    · rw [initialized_alone used, initialized_processes, Function.update_self]
      rfl
  | step operation _ gives inductionHypothesis =>
    exact ⟨operation.apply_distinctPids gives.1 inductionHypothesis.1,
      operation.apply_initAlone gives.2 inductionHypothesis.2⟩

/-- Init makes a child, and pid 2 is the child. -/
theorem firstChild_uniquePids :
    UniquePids ((core (.spawn (some 0x100000000) { name := [99] })).apply
      (Table.initialized 0)) := by
  refine newPidRun_uniquePids (.step _ (.initialized 0) ⟨fun _ _ _ slot _ used => ?_, fun _ _ _ => ?_⟩)
  · rw [initialized_alone used]
    decide +kernel
  · decide +kernel

/-- A spawn that uses up a pid and is refused for an argument that is too long. -/
def wastefulSpawn : PublicOperation :=
  .core (.spawn (some 0x100000000) { name := [99], arguments := [List.replicate 32 97] })

theorem wastefulSpawn_apply (nextPid : Nat) :
    wastefulSpawn.apply { Table.initialized 0 with nextPid } =
      { Table.initialized 0 with nextPid := nextNonzero 32 nextPid } := by
  rfl

theorem wastefulSpawn_iterate (count nextPid : Nat) :
    (fun table => wastefulSpawn.apply table)^[count] { Table.initialized 0 with nextPid } =
      { Table.initialized 0 with nextPid := (nextNonzero 32)^[count] nextPid } := by
  induction count generalizing nextPid with
  | zero => rfl
  | succ count hypothesis =>
    rw [Function.iterate_succ_apply, wastefulSpawn_apply, hypothesis,
      ← Function.iterate_succ_apply]

theorem PublicRun.iterate (run : PublicRun table) (operation : PublicOperation)
    (count : Nat) : PublicRun ((fun table => operation.apply table)^[count] table) := by
  induction count generalizing table with
  | zero => exact run
  | succ count hypothesis => exact hypothesis (.step operation run)

/-- The counter of pids comes round. -/
theorem pids_come_round : ∃ count, (nextNonzero 32)^[count] 2 = 1 := by
  refine ⟨2 ^ 32 - 2, ?_⟩
  have round (count : Nat) : (nextNonzero 32)^[count] 2 = (2 - 1 + count) % (2 ^ 32 - 1) + 1 :=
    iterate_nextGeneration (by decide) (by decide) count
  exact (round (2 ^ 32 - 2)).trans (by norm_num)

/-- Init turns the pid counter round with spawns that are refused, and its child gets its own pid. -/
theorem wrappedRun_shares_pid :
    ∃ table, PublicRun table ∧ (table.processes 0).used = true ∧ (table.processes 1).used = true ∧
      (table.processes 0).pid = initPid ∧ (table.processes 1).pid = initPid ∧
        ¬ UniquePids table := by
  obtain ⟨count, round⟩ := pids_come_round
  have wrapped := wastefulSpawn_iterate count 2
  rw [round] at wrapped
  have run := (PublicRun.initialized 0).iterate wastefulSpawn count
  have start : Table.initialized 0 = { Table.initialized 0 with nextPid := 2 } := rfl
  rw [start, wrapped] at run
  refine ⟨_, run.step (.core (.spawn (some 0x100000000) { name := [99] })), by decide +kernel,
    by decide +kernel, by decide +kernel, by decide +kernel, fun unique => ?_⟩
  exact absurd (unique.distinct 0 (by decide) 1 (by decide) (by decide +kernel) (by decide +kernel)
    (by decide +kernel)) (by decide)

end ZigOs.RuntimeProcess
