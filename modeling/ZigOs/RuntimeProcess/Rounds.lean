/-
This file is about the fairness of the scheduler. It searches the table round
and round, so whoever can be picked at every search is picked before anybody
gets a second turn. The cursor is shared by all searches: one that asks for
processes of another kind goes past a process that waits, and may take the
cursor round.
-/

import ZigOs.Lib.Rotation
import ZigOs.RuntimeProcess.Atomicity

namespace ZigOs.RuntimeProcess

open Scan Table Rotation Call

/-! ### A search -/

/-- A process has been picked, and the cursor stays at it. -/
def Table.started (table : Table) (slot : Nat) : Table :=
  { (({ table with schedulerCursor := slot } : Table).modify slot fun process =>
      { process with
        state := .running
        remainingSlice := max 1 process.timeSlice
        contextSwitches := wrapIncrement 64 process.contextSwitches }) with
    totalContextSwitches := wrapIncrement 64 table.totalContextSwitches }

/-- The slot can be picked. -/
def Table.canPick (table : Table) (required : Option Kind) (slot : Nat) : Bool :=
  eligible required (table.processes slot)

section Search

variable {table : Table} {required : Option Kind} {scans steps : Nat}

theorem scheduleScan_found (few : steps < scans)
    (picked : table.canPick required (place maximumProcesses table.schedulerCursor (steps + 1)) = true)
    (passed : ∀ earlier < steps,
      table.canPick required (place maximumProcesses table.schedulerCursor (earlier + 1)) = false) :
    scheduleScan required scans table =
      (some (table.processes (place maximumProcesses table.schedulerCursor (steps + 1))).handle,
        table.started (place maximumProcesses table.schedulerCursor (steps + 1))) := by
  induction steps generalizing scans table with
  | zero =>
    obtain ⟨fewer, rfl⟩ := Nat.exists_eq_succ_of_ne_zero (Nat.ne_zero_of_lt few)
    exact if_pos picked
  | succ steps hypothesis =>
    obtain ⟨fewer, rfl⟩ := Nat.exists_eq_succ_of_ne_zero (Nat.ne_zero_of_lt few)
    have onward (more : Nat) : place maximumProcesses (place maximumProcesses table.schedulerCursor 1) more =
        place maximumProcesses table.schedulerCursor (more + 1) := by
      rw [place_place, Nat.add_comm]
    let moved : Table := { table with schedulerCursor := place maximumProcesses table.schedulerCursor 1 }
    have first : eligible required (table.processes (place maximumProcesses table.schedulerCursor 1)) = false :=
      passed 0 (Nat.succ_pos _)
    have rest := @hypothesis moved fewer (Nat.lt_of_succ_lt_succ few)
    simp only [moved, onward] at rest
    refine (if_neg (by rw [show (table.schedulerCursor + 1) % maximumProcesses = place maximumProcesses
      table.schedulerCursor 1 from rfl, first]; decide)).trans ?_
    exact rest picked fun earlier before => passed (earlier + 1) (Nat.succ_lt_succ before)

theorem scheduleScan_exhausted (cursorBelow : table.schedulerCursor < maximumProcesses)
    (fails : ∀ slot < maximumProcesses, table.canPick required slot = false) :
    ∃ cursor < maximumProcesses,
      scheduleScan required scans table = (none, { table with schedulerCursor := cursor }) := by
  induction scans generalizing table with
  | zero => exact ⟨table.schedulerCursor, cursorBelow, rfl⟩
  | succ scans hypothesis =>
    have below : (table.schedulerCursor + 1) % maximumProcesses < maximumProcesses :=
      Nat.mod_lt _ (by decide)
    obtain ⟨cursor, cursorBelow, result⟩ := @hypothesis
      { table with schedulerCursor := (table.schedulerCursor + 1) % maximumProcesses } below fails
    refine ⟨cursor, cursorBelow, ?_⟩
    refine (if_neg ?_).trans result
    have failed := fails _ below
    unfold Table.canPick at failed
    rw [failed]
    decide

/-- What a scheduling call ends in. -/
inductive PickOutcome (table : Table) (current : Option Nat) (required : Option Kind) :
    Option Nat → Table → Prop where
  | picked {steps : Nat}
      (found : search maximumProcesses table.schedulerCursor ((table.demote current).canPick required) =
        some steps) :
      PickOutcome table current required (some ((table.demote current).processes
          (place maximumProcesses table.schedulerCursor (steps + 1))).handle)
        ((table.demote current).started (place maximumProcesses table.schedulerCursor (steps + 1)))
  | idle {cursor : Nat} (cursorBelow : cursor < maximumProcesses)
      (fails : ∀ slot < maximumProcesses, (table.demote current).canPick required slot = false) :
      PickOutcome table current required none { table.demote current with schedulerCursor := cursor }

theorem demote_cursor (table : Table) (current : Option Nat) :
    (table.demote current).schedulerCursor = table.schedulerCursor := by
  unfold demote
  split
  · rfl
  · split
    · rfl
    · split
      · rfl
      · rfl

/-- The search covers the whole table, so nobody is left to fall back to when it fails. -/
theorem scheduleNextEligible_outcome (cursorBelow : table.schedulerCursor < maximumProcesses)
    (current : Option Nat) (required : Option Kind) :
    PickOutcome table current required (table.scheduleNextEligible current required).1
      (table.scheduleNextEligible current required).2 := by
  have sameCursor := demote_cursor table current
  unfold scheduleNextEligible
  rcases found : search maximumProcesses table.schedulerCursor ((table.demote current).canPick required)
    with _ | steps
  · have fails := (search_eq_none cursorBelow).mp found
    rw [← sameCursor] at cursorBelow
    obtain ⟨cursor, below, result⟩ := @scheduleScan_exhausted _ required maximumProcesses cursorBelow fails
    rw [result]
    cases current with
    | none => exact .idle below fails
    | some handle =>
      dsimp only
      rcases resolved : Table.resolve { table.demote (some handle) with schedulerCursor := cursor } handle with
        failure | slot
      · exact .idle below fails
      · have unpicked := fails slot (resolve_ok resolved).1
        unfold Table.canPick at unpicked
        dsimp only
        rw [unpicked, if_neg (by decide)]
        exact .idle below fails
  · obtain ⟨few, picked, passed⟩ := firstIndex_eq_some.mp found
    have outcome := PickOutcome.picked found
    rw [← sameCursor] at picked passed outcome
    rwa [scheduleScan_found few picked passed]

end Search

/-! ### The cursor -/

/-- The cursor has not moved. -/
def SameCursor (before after : Table) : Prop := after.schedulerCursor = before.schedulerCursor

instance : Std.Refl SameCursor where
  refl _ := rfl

instance : IsTrans Table SameCursor where
  trans _ _ _ first second := Eq.trans second first

variable {table : Table}

section Cursor

theorem terminate_sameCursor (dying : Table) (slot : Nat) :
    SameCursor dying ((dying.reparentChildren slot).wakeParent slot) := by
  have woken (table : Table) : SameCursor table (table.wakeParent slot) := by
    unfold wakeParent
    dsimp only
    split_ifs
    · rfl
    · rfl
    · rfl
    · rfl
  refine IsTrans.trans _ _ _ ?_ (woken _)
  unfold reparentChildren
  split
  · rfl
  · rfl

variable (handle : Nat)

theorem exit_sameCursor (status : Nat) : Keeps SameCursor (exit handle status) := by
  refine keeps_state_bind fun _ => keeps_lift_bind fun slot => ?_
  refine keeps_failWhen_bind fun _ => keeps_change fun table => ?_
  exact Trans.trans rfl (terminate_sameCursor _ slot)

theorem fault_sameCursor (vector address : Nat) :
    Keeps SameCursor (fault handle vector address) := by
  refine keeps_state_bind fun _ => keeps_lift_bind fun slot => ?_
  refine keeps_failWhen_bind fun _ => keeps_change fun table => ?_
  exact Trans.trans rfl (terminate_sameCursor _ slot)

/-- A call that finds its process, makes one check and changes it. -/
theorem checked_sameCursor (refuses : Table → Nat → Prop)
    [∀ table slot, Decidable (refuses table slot)] (failure : Error)
    (step : Table → Nat → Table → Table)
    (same : ∀ read slot table, SameCursor table (step read slot table)) : Keeps SameCursor (do
      let table ← Call.state
      let slot ← lift (table.resolve handle)
      failWhen (refuses table slot) failure
      change (step table slot) : TableCall Unit) :=
  keeps_state_bind fun table => keeps_lift_bind fun slot =>
    keeps_failWhen_bind fun _ => keeps_change (same table slot)

theorem stop_sameCursor : Keeps SameCursor (stop handle) :=
  checked_sameCursor handle _ _ _ fun _ _ _ => rfl

theorem continueProcess_sameCursor : Keeps SameCursor (continueProcess handle) :=
  checked_sameCursor handle _ _ _ fun _ _ _ => rfl

theorem setRunning_sameCursor : Keeps SameCursor (setRunning handle) :=
  checked_sameCursor handle _ _ _ fun _ _ _ => rfl

theorem setRunnable_sameCursor : Keeps SameCursor (setRunnable handle) :=
  checked_sameCursor handle _ _ _ fun _ _ _ => rfl

theorem sleep_sameCursor (wakeTick : Nat) : Keeps SameCursor (sleep handle wakeTick) :=
  checked_sameCursor handle _ _ _ fun _ _ _ => rfl

theorem block_sameCursor (reason : WaitReason) (target : Nat) :
    Keeps SameCursor (block handle reason target) :=
  keeps_failWhen_bind fun _ => checked_sameCursor handle _ _ _ fun _ _ _ => rfl

theorem setResourceUsage_sameCursor (pages descriptors sockets : Nat) :
    Keeps SameCursor (setResourceUsage handle pages descriptors sockets) :=
  checked_sameCursor handle _ _ _ fun _ _ _ => rfl

variable (sender : Nat)

theorem sendSignal_sameCursor (target signal : Nat) :
    Keeps SameCursor (sendSignal sender target signal) := by
  refine keeps_failWhen_bind fun _ => keeps_state_bind fun _ =>
    keeps_lift_bind fun _ => keeps_lift_bind fun slot => ?_
  refine keeps_failWhen_bind fun _ => keeps_bind (keeps_failWhen _ _)
    fun _ => keeps_bind (keeps_change fun _ => rfl) fun _ => ?_
  exact keeps_ite (exit_sameCursor _ _) (keeps_ite (stop_sameCursor _)
    (keeps_ite (continueProcess_sameCursor _) (keeps_change fun _ => rfl)))

theorem signalEach_sameCursor (signal : Nat) (targets : List Nat) :
    Keeps SameCursor (signalEach sender signal targets) := by
  induction targets with
  | nil => exact keeps_ok ()
  | cons target rest hypothesis =>
    exact keeps_bind (sendSignal_sameCursor _ _ _) fun _ => hypothesis

variable (parentSlot : Nat)

theorem reapSlot_sameCursor (slot : Nat) : Keeps SameCursor (reapSlot parentSlot slot) :=
  keeps_state_bind fun _ => keeps_failWhen_bind fun _ =>
    keeps_failWhen_bind fun _ =>
      keeps_bind (keeps_change fun _ => rfl) fun _ => keeps_pure _

theorem reapEach_sameCursor (slots : List Nat) : Keeps SameCursor (reapEach parentSlot slots) := by
  induction slots with
  | nil => exact keeps_ok 0
  | cons slot rest hypothesis =>
    exact keeps_state_bind fun _ => keeps_ite hypothesis
      (keeps_bind (reapSlot_sameCursor _ _) fun _ => keeps_bind hypothesis fun _ =>
        keeps_pure _)

variable (parent : Nat)

theorem reapTerminalChildren_sameCursor : Keeps SameCursor (reapTerminalChildren parent) :=
  keeps_state_bind fun _ => keeps_lift_bind fun _ =>
    reapEach_sameCursor _ _

/-- The parent of a wait sleeps, unless it asked not to. -/
theorem blockOnChild_sameCursor (refuses : Prop) [Decidable refuses] (nonblocking : Bool)
    (target : Nat) (group : Bool) : Keeps SameCursor ((do
      failWhen refuses .notChild
      change fun table =>
        if nonblocking then table else table.modify parentSlot (blockOnChild target group)
      return none) : TableCall (Option Status)) := by
  refine keeps_failWhen_bind fun _ => keeps_bind ?_ fun _ => keeps_pure _
  refine keeps_change fun table => ?_
  split
  · rfl
  · rfl

theorem wait_sameCursor (target : Option Nat) (nonblocking : Bool) :
    Keeps SameCursor (wait parent target nonblocking) := by
  refine keeps_state_bind fun _ => keeps_lift_bind fun _ => ?_
  split
  · exact keeps_bind (reapSlot_sameCursor _ _) fun _ => keeps_pure _
  · exact blockOnChild_sameCursor _ _ _ _ _

theorem waitGroup_sameCursor (group : Nat) (nonblocking : Bool) :
    Keeps SameCursor (waitGroup parent group nonblocking) := by
  refine keeps_failWhen_bind fun _ => keeps_state_bind fun _ =>
    keeps_lift_bind fun _ => ?_
  split
  · exact keeps_bind (reapSlot_sameCursor _ _) fun _ => keeps_pure _
  · exact blockOnChild_sameCursor _ _ _ _ _

theorem SpawnOutcome.sameCursor {after : Table} {parent : Option Nat} {request : SpawnRequest}
    {group : SpawnGroup} {result : Except Error Nat}
    (outcome : SpawnOutcome table parent request group result after) : SameCursor table after := by
  cases outcome with
  | refused failure reuses nextPid => rfl
  | accepted reuses nextPid processGroup =>
    unfold Table.install
    split
    · rfl
    · rfl

theorem spawnPipeline_sameCursor (request : SpawnRequest) (group : SpawnGroup) :
    Keeps SameCursor (spawnPipeline parent request group) :=
  keeps_bind (keeps_failWhen _ _) fun _ table =>
    (spawnInternal_outcome _ _ _ table).sameCursor

theorem accountTick_sameCursor : Keeps SameCursor (accountTick handle) := by
  refine keeps_state_bind fun _ => keeps_lift_bind fun slot =>
    keeps_failWhen_bind fun _ => keeps_bind (keeps_change fun _ => rfl)
      fun _ => keeps_state_bind fun _ => keeps_ite ?_ ?_
  · exact keeps_bind (exit_sameCursor _ _) fun _ => keeps_pure _
  · exact keeps_bind (keeps_change fun _ => rfl) fun _ => keeps_pure _

theorem takeSignal_sameCursor : Keeps SameCursor (takeSignal handle) := by
  refine keeps_state_bind fun _ => keeps_lift_bind fun slot => ?_
  dsimp only
  split
  · exact keeps_pure _
  · exact keeps_bind (keeps_change fun _ => rfl) fun _ => keeps_pure _

theorem wakeMatching_sameCursor (table : Table) (reason : WaitReason) (target : Nat) (all : Bool) :
    SameCursor table (table.wakeMatching reason target all).2 := by
  unfold wakeMatching
  split
  · rfl
  · split
    · rfl
    · rfl

end Cursor

/-- The kind that a scheduling call asks for and the process that it takes from the processor. -/
def PublicOperation.scheduling : PublicOperation → Option (Option Kind × Option Nat)
  | .scheduleNext current => some (none, current)
  | .scheduleNextKind kind current => some (some kind, current)
  | _ => none

/-- Who a scheduling call returns. -/
def PublicOperation.picks (table : Table) (operation : PublicOperation) : Option Nat :=
  operation.scheduling.bind fun asked => (table.scheduleNextEligible asked.2 asked.1).1

variable {operation : PublicOperation} {required : Option Kind} {current : Option Nat}

theorem PublicOperation.apply_scheduling
    (schedules : operation.scheduling = some (required, current)) (table : Table) :
    operation.apply table = (table.scheduleNextEligible current required).2 ∧
      operation.picks table = (table.scheduleNextEligible current required).1 := by
  refine ⟨?_, by rw [picks, schedules, Option.bind_some]⟩
  unfold scheduling at schedules
  split at schedules
  · cases (Option.some.inj schedules)
    rfl
  · cases (Option.some.inj schedules)
    rfl
  · cases schedules

theorem PublicOperation.apply_sameCursor (other : operation.scheduling = none)
    (table : Table) : SameCursor table (operation.apply table) := by
  cases operation with
  | core operation =>
    cases operation with
    | spawn parent request => exact (spawnInternal_outcome _ _ .inherit table).sameCursor
    | spawnPipeline parent request group => exact spawnPipeline_sameCursor parent request group table
    | exit handle status => exact exit_sameCursor handle status table
    | fault handle vector address => exact fault_sameCursor handle vector address table
    | sendSignal sender target signal => exact sendSignal_sameCursor sender target signal table
    | sendGroupSignal sender group signal =>
      exact (keeps_state_bind fun _ => keeps_bind
        (signalEach_sameCursor sender signal _) fun _ => keeps_pure _ :
          Keeps SameCursor (Table.sendGroupSignal sender group signal)) table
    | wait parent target nonblocking => exact wait_sameCursor parent target nonblocking table
    | waitGroup parent group nonblocking => exact waitGroup_sameCursor parent group nonblocking table
    | reapTerminalChildren parent => exact reapTerminalChildren_sameCursor parent table
    | stop handle => exact stop_sameCursor handle table
    | continueProcess handle => exact continueProcess_sameCursor handle table
  | configureInitUserspace name arguments cwdNode =>
    exact (keeps_failWhen_bind fun _ => keeps_bind (keeps_failWhen _ _)
      fun _ => keeps_state_bind fun _ => keeps_lift_bind fun _ =>
        keeps_failWhen_bind fun _ => keeps_bind (keeps_failWhen _ _)
          fun _ => keeps_change fun _ => rfl :
            Keeps SameCursor (Table.configureInitUserspace name arguments cwdNode)) table
  | setRunning handle => exact setRunning_sameCursor handle table
  | setRunnable handle => exact setRunnable_sameCursor handle table
  | scheduleNext current => cases other
  | scheduleNextKind kind current => cases other
  | accountTick handle => exact accountTick_sameCursor handle table
  | accountSyscall handle =>
    exact (keeps_state_bind fun _ => keeps_lift_bind fun _ =>
      keeps_change fun _ => rfl : Keeps SameCursor (Table.accountSyscall handle)) table
  | sleep handle wakeTick => exact sleep_sameCursor handle wakeTick table
  | block handle reason target => exact block_sameCursor handle reason target table
  | wakeExpired tick => rfl
  | wakeMatching reason target all => exact wakeMatching_sameCursor table reason target all
  | takeSignal handle => exact takeSignal_sameCursor handle table
  | setSignalMask handle mask =>
    exact (keeps_state_bind fun _ => keeps_lift_bind fun _ =>
      keeps_change fun _ => rfl : Keeps SameCursor (Table.setSignalMask handle mask)) table
  | setUmask handle mask =>
    exact (keeps_state_bind fun _ => keeps_lift_bind fun _ =>
      keeps_bind (keeps_change fun _ => rfl) fun _ => keeps_pure _ :
        Keeps SameCursor (Table.setUmask handle mask)) table
  | reapOrphans =>
    have kept := reapTerminalChildren_sameCursor table.initHandle table
    simp only [PublicOperation.apply, Table.reapOrphans]
    split <;> (rename_i outcome; rwa [outcome] at kept)
  | setResourceUsage handle pages descriptors sockets =>
    exact setResourceUsage_sameCursor handle pages descriptors sockets table
  | setWorkingDirectory handle cwdNode =>
    exact (keeps_state_bind fun _ => keeps_lift_bind fun _ =>
      keeps_change fun _ => rfl : Keeps SameCursor (Table.setWorkingDirectory handle cwdNode)) table
  | setProcessGroup caller target group =>
    exact (keeps_state_bind fun _ => keeps_lift_bind fun _ =>
      keeps_lift_bind fun _ => keeps_failWhen_bind fun _ =>
        keeps_change fun _ => rfl :
          Keeps SameCursor (Table.setProcessGroup caller target group)) table

/-! ### Turns -/

/-- The cursor points into the table. -/
theorem publicRun_cursor (run : PublicRun table) : table.schedulerCursor < maximumProcesses := by
  induction run with
  | initialized tick =>
    have start : (Table.initialized tick).schedulerCursor = 0 := rfl
    rw [start]
    decide
  | @step table operation _ below =>
    rcases schedules : operation.scheduling with _ | ⟨required, current⟩
    · have same : (operation.apply table).schedulerCursor = table.schedulerCursor :=
        operation.apply_sameCursor schedules table
      rwa [same]
    · obtain ⟨after, -⟩ := PublicOperation.apply_scheduling schedules table
      have outcome := scheduleNextEligible_outcome below current required
      rw [after]
      generalize (table.scheduleNextEligible current required).1 = picked at outcome
      generalize (table.scheduleNextEligible current required).2 = scheduled at outcome
      cases outcome with
      | picked found => exact Nat.mod_lt _ (by decide)
      | idle cursorBelow fails => exact cursorBelow

/-- If the operation is a scheduling call, it can pick the process. -/
def Waits (table : Table) (handle : Nat) (operation : PublicOperation) : Prop :=
  ∀ required current, operation.scheduling = some (required, current) →
    ∃ slot < maximumProcesses, ((table.demote current).processes slot).handle = handle ∧
      (table.demote current).canPick required slot = true

/-- Every scheduling call of the run can pick the process. -/
def WaitsThrough (handle : Nat) : Table → List PublicOperation → Prop
  | _, [] => True
  | table, operation :: rest =>
    Waits table handle operation ∧ WaitsThrough handle (operation.apply table) rest

/-- Some scheduling call of the run picks the process. -/
def HasTurn (handle : Nat) : Table → List PublicOperation → Prop
  | _, [] => False
  | table, operation :: rest =>
    operation.picks table = some handle ∨ HasTurn handle (operation.apply table) rest

/-- The table after the operations. -/
def Table.run (table : Table) (operations : List PublicOperation) : Table :=
  operations.foldl PublicOperation.apply table

variable {slot : Nat}

section Turns

variable {table : Table} {handle waiting first : Nat} {operation : PublicOperation}

/-- The slot of a handle. -/
def handleSlot (handle : Nat) : Nat := handle % 2 ^ 32

theorem Named.handleSlot_handle (named : Named table) (below : slot < maximumProcesses)
    (used : (table.processes slot).used = true) : handleSlot (table.processes slot).handle = slot := by
  rw [named slot below used]
  exact (makeHandle_slot below _).1

theorem canPick_used (picked : table.canPick required slot = true) :
    (table.processes slot).used = true := by
  unfold Table.canPick eligible at picked
  simp only [Bool.and_eq_true] at picked
  exact picked.1.1

/-- A scheduling call that can pick the waiting process picks it, or one before it. -/
theorem pick_before (run : PublicRun table) (firstBelow : first < maximumProcesses)
    (waits : Waits table waiting operation)
    (schedules : operation.scheduling = some (required, current))
    (behind : distance maximumProcesses first table.schedulerCursor <
      distance maximumProcesses first (handleSlot waiting)) :
    operation.picks table = some waiting ∨ ∃ slot, operation.picks table = some
        ((table.demote current).processes slot).handle ∧ (table.demote current).canPick required slot = true ∧
      slot < maximumProcesses ∧ (operation.apply table).schedulerCursor = slot ∧
      distance maximumProcesses first table.schedulerCursor < distance maximumProcesses first slot ∧
        distance maximumProcesses first slot < distance maximumProcesses first (handleSlot waiting) := by
  have cursorBelow := publicRun_cursor run
  have named : Named (table.demote current) := (demote_sameTree table current).thins.named (publicRun_named run)
  obtain ⟨place, placeBelow, isWaiting, canPick⟩ := waits required current schedules
  have slot : handleSlot waiting = place := by
    rw [← isWaiting]
    exact named.handleSlot_handle placeBelow (canPick_used canPick)
  obtain ⟨applied, picks⟩ := PublicOperation.apply_scheduling schedules table
  have outcome := scheduleNextEligible_outcome cursorBelow current required
  rw [applied, picks]
  rw [slot] at behind ⊢
  generalize (table.scheduleNextEligible current required).1 = picked at outcome
  generalize (table.scheduleNextEligible current required).2 = scheduled at outcome
  cases outcome with
  | idle _ fails =>
    rw [fails place placeBelow] at canPick
    cases canPick
  | @picked steps found =>
    rcases search_between firstBelow cursorBelow placeBelow behind canPick found with here | ⟨more, less⟩
    · left
      rw [here, isWaiting]
    · have test := (firstIndex_eq_some.mp found).2.1
      exact .inr ⟨_, rfl, test, Nat.mod_lt _ (by decide), rfl, more, less⟩

/-- Who is picked is in the slot that its handle names. -/
theorem picks_slot (run : PublicRun table) (picks : operation.picks table = some handle) :
    ∃ required current, operation.scheduling = some (required, current) ∧ handleSlot handle < maximumProcesses ∧
      (operation.apply table).schedulerCursor = handleSlot handle ∧
        ((table.demote current).processes (handleSlot handle)).handle = handle := by
  rcases schedules : operation.scheduling with _ | ⟨required, current⟩
  · rw [PublicOperation.picks, schedules, Option.bind_none] at picks
    cases picks
  · obtain ⟨applied, isPick⟩ := PublicOperation.apply_scheduling schedules table
    have named : Named (table.demote current) :=
      (demote_sameTree table current).thins.named (publicRun_named run)
    have outcome := scheduleNextEligible_outcome (publicRun_cursor run) current required
    rw [← isPick, picks, ← applied] at outcome
    refine ⟨required, current, rfl, ?_⟩
    generalize operation.apply table = scheduled at outcome
    cases outcome with
    | @picked steps found =>
      have below := Nat.mod_lt (table.schedulerCursor + (steps + 1)) (show 0 < maximumProcesses by decide)
      have test := (firstIndex_eq_some.mp found).2.1
      have here := named.handleSlot_handle below (canPick_used test)
      unfold place
      rw [here]
      exact ⟨below, rfl, rfl⟩

theorem PublicRun.run (start : PublicRun table) (operations : List PublicOperation) :
    PublicRun (table.run operations) := by
  induction operations generalizing table with
  | nil => exact start
  | cons operation rest hypothesis => exact hypothesis (.step operation start)

variable {operations : List PublicOperation}

theorem WaitsThrough.last {last : PublicOperation}
    (waits : WaitsThrough waiting table (operations ++ [last])) : Waits (table.run operations) waiting last := by
  induction operations generalizing table with
  | nil => exact waits.1
  | cons operation rest hypothesis => exact hypothesis waits.2

/-- As long as the waiting process has no turn, nobody behind it has one. -/
theorem turn_before {last : PublicOperation} (run : PublicRun table)
    (firstBelow : handleSlot first < maximumProcesses)
    (behind : distance maximumProcesses (handleSlot first) table.schedulerCursor <
      distance maximumProcesses (handleSlot first) (handleSlot waiting))
    (waits : WaitsThrough waiting table (operations ++ [last]))
    (again : last.picks (table.run operations) = some first) (apart : waiting ≠ first) :
    HasTurn waiting table operations := by
  induction operations generalizing table with
  | nil =>
    rcases schedules : last.scheduling with _ | ⟨required, current⟩
    · have none : last.picks table = none := by rw [PublicOperation.picks, schedules, Option.bind_none]
      rw [show table.run [] = table from rfl, none] at again
      cases again
    · rcases pick_before run firstBelow waits.1 schedules behind with here | ⟨slot, picks, picked, below, -, more, -⟩
      · exact absurd (Option.some.inj (here.symm.trans again)) apart
      · have named : Named (table.demote current) :=
          (demote_sameTree table current).thins.named (publicRun_named run)
        have same := Option.some.inj (picks.symm.trans again)
        have here := named.handleSlot_handle below (canPick_used picked)
        rw [same] at here
        rw [← here, distance_self] at more
        cases more
  | cons operation rest hypothesis =>
    have onward : distance maximumProcesses (handleSlot first) (operation.apply table).schedulerCursor <
        distance maximumProcesses (handleSlot first) (handleSlot waiting) ∨
          operation.picks table = some waiting := by
      rcases schedules : operation.scheduling with _ | ⟨required, current⟩
      · have same : (operation.apply table).schedulerCursor = table.schedulerCursor :=
          operation.apply_sameCursor schedules table
        rw [same]
        exact .inl behind
      · rcases pick_before run firstBelow waits.1 schedules behind with here | ⟨slot, -, -, -, cursor, -, less⟩
        · exact .inr here
        · rw [cursor]
          exact .inl less
    rcases onward with still | here
    · exact .inr (hypothesis (.step operation run) still waits.2 again)
    · exact .inl here

end Turns

/-! ### Who is running -/

/-- Nobody runs, or it is the process that is given up. -/
def OnlyRunning (table : Table) (current : Option Nat) : Prop :=
  ∀ slot < maximumProcesses, (table.processes slot).used = true → (table.processes slot).state = .running →
    current = some (table.processes slot).handle

section Running

variable {table : Table} {current : Option Nat}

/-- Once the process that was running is given up, nobody runs. -/
theorem demote_idle (named : Named table) (only : OnlyRunning table current)
    (below : slot < maximumProcesses) (used : ((table.demote current).processes slot).used = true) :
    ((table.demote current).processes slot).state ≠ .running := by
  have wasUsed : (table.processes slot).used = true :=
    ((demote_sameTree table current).thins slot).occupant used |>.1
  by_cases running : (table.processes slot).state = .running
  · have given := only slot below wasUsed running
    have resolved := named.resolve below wasUsed
    rw [given]
    unfold demote
    dsimp only
    rw [resolved]
    dsimp only
    rw [if_pos running, modify_self]
    rintro ⟨⟩
  · unfold demote
    split
    · exact running
    · split
      · exact running
      · split
        · rw [modify_apply]
          split
          · rintro ⟨⟩
          · exact running
        · exact running

/-- After a scheduling call that was given the running process, nobody else runs but who was picked. -/
theorem scheduled_single (named : Named table) (only : OnlyRunning table current)
    (cursorBelow : table.schedulerCursor < maximumProcesses) (below : slot < maximumProcesses)
    (used : ((table.scheduleNextEligible current required).2.processes slot).used = true)
    (running : ((table.scheduleNextEligible current required).2.processes slot).state = .running) :
    (table.scheduleNextEligible current required).1 =
      some ((table.scheduleNextEligible current required).2.processes slot).handle := by
  have outcome := scheduleNextEligible_outcome cursorBelow current required
  generalize (table.scheduleNextEligible current required).1 = picked at outcome
  generalize (table.scheduleNextEligible current required).2 = scheduled at outcome used running
  cases outcome with
  | idle _ _ => exact absurd running (demote_idle named only below used)
  | @picked steps found =>
    unfold Table.started at used running ⊢
    rw [modify_apply] at used running ⊢
    split at used
    · rename_i here
      rw [if_pos here, here]
    · rename_i apart
      rw [if_neg apart] at running
      exact absurd running (demote_idle named only below used)

end Running

/-! ### The claims of the scheduler -/

/-- The scheduler is fair from this state on. -/
structure GoesRound (table : Table) : Prop where
  /-- Between two turns of one process, every other process that each scheduling call in between and
  the last one can pick has a turn. -/
  fair : ∀ operations first last handle other, PublicOperation.picks table first = some handle →
    last.picks ((first.apply table).run operations) = some handle → other ≠ handle →
      WaitsThrough other (first.apply table) (operations ++ [last]) →
        HasTurn other (first.apply table) operations
  /-- After a scheduling call that was given the process that was running, at most one is. -/
  single : ∀ current required, OnlyRunning table current → ∀ slot < maximumProcesses, ∀ other < maximumProcesses,
    ((table.scheduleNextEligible current required).2.processes slot).used = true →
    ((table.scheduleNextEligible current required).2.processes slot).state = .running →
    ((table.scheduleNextEligible current required).2.processes other).used = true →
    ((table.scheduleNextEligible current required).2.processes other).state = .running → slot = other
  /-- A scheduling call returns nobody only if nobody can be picked, the process that is given up included. -/
  idle : ∀ current required, (table.scheduleNextEligible current required).1 = none →
    ∀ slot < maximumProcesses, (table.demote current).canPick required slot = false

theorem publicRun_goesRound {table : Table} (run : PublicRun table) : GoesRound table := by
  have named := publicRun_named run
  have cursorBelow := publicRun_cursor run
  refine ⟨fun operations first last handle other picks again apart waits => ?_,
    fun current required only slot below place placeBelow used running placeUsed placeRunning => ?_,
    fun current required none => ?_⟩
  · obtain ⟨_, _, -, firstBelow, cursor, -⟩ := picks_slot run picks
    have started : PublicRun (first.apply table) := .step first run
    have ended := started.run operations
    obtain ⟨required, current, schedules, -, -, isHandle⟩ := picks_slot ended again
    obtain ⟨slot, below, isOther, canPick⟩ := waits.last required current schedules
    have waitingSlot : handleSlot other = slot := by
      have still := (demote_sameTree ((first.apply table).run operations) current).thins.named
        (publicRun_named ended)
      rw [← isOther]
      exact still.handleSlot_handle below (canPick_used canPick)
    have elsewhere : handleSlot other ≠ handleSlot handle := by
      intro same
      rw [← same, waitingSlot, isOther] at isHandle
      exact apart isHandle
    refine turn_before started firstBelow ?_ waits again apart
    rw [cursor, distance_self]
    exact distance_pos firstBelow (waitingSlot ▸ below) elsewhere
  · have first := scheduled_single named only cursorBelow below used running
    have second := scheduled_single named only cursorBelow placeBelow placeUsed placeRunning
    have same := Option.some.inj (first.symm.trans second)
    have still := (scheduleNextEligible_sameTree table current required).thins.named named
    rw [← still.handleSlot_handle below used, same]
    exact still.handleSlot_handle placeBelow placeUsed
  · have outcome := scheduleNextEligible_outcome cursorBelow current required
    rw [none] at outcome
    generalize (table.scheduleNextEligible current required).2 = scheduled at outcome
    cases outcome with
    | idle _ fails => exact fails

/-! ### Two kinds -/

/-- Init makes two user processes and a kernel process. -/
def kindsRun : List PublicOperation := [
  .core (.spawn (some 0x100000000) { name := [97] }),
  .core (.spawn (some 0x100000000) { name := [98] }),
  .core (.spawn (some 0x100000000) { name := [99], kind := .kernel })]

def kindsTable : Table := (Table.initialized 0).run kindsRun

theorem publicRun_kindsTable : PublicRun kindsTable := (PublicRun.initialized 0).run kindsRun

theorem kindsTable_goesRound : GoesRound kindsTable := publicRun_goesRound publicRun_kindsTable

def userTurn (current : Option Nat) : PublicOperation := .scheduleNextKind .userspace current

def kernelTurn : PublicOperation := .scheduleNextKind .kernel none

/-- A search for kernel processes takes the cursor past the second user process, and the first one has
its next turn without it. -/
theorem kernelTurn_starves :
    PublicRun kindsTable ∧ (userTurn none).picks kindsTable = some 0x100000001 ∧
      kernelTurn.picks (kindsTable.run [userTurn none]) = some 0x100000003 ∧
      (userTurn (some 0x100000001)).picks (kindsTable.run [userTurn none, kernelTurn]) = some 0x100000001 ∧
      ∀ seen ∈ [kindsTable, kindsTable.run [userTurn none], kindsTable.run [userTurn none, kernelTurn]],
        (seen.processes 2).used = true ∧ (seen.processes 2).handle = 0x100000002 ∧
          (seen.processes 2).kind = .userspace ∧ (seen.processes 2).state = .runnable := by
  refine ⟨publicRun_kindsTable, by decide +kernel, by decide +kernel, by decide +kernel, ?_⟩
  decide +kernel

end ZigOs.RuntimeProcess
