/-
This file runs the process table. Every public call is a sequence of the four
kinds of step on the tree, so the tree is well formed in every state that
orderly steps reach. Beside a run it counts what becomes of one slot: a handle
names the process it was made for until that process is reaped, and then
nobody, as long as the generations of the slot have not come round.
-/

import ZigOs.RuntimeProcess.Tree

namespace ZigOs.RuntimeProcess

open Scan Table Call Function Process

/-! ### The public calls -/

/-- Everything that can happen to a table. The lookups and the report change nothing. -/
inductive PublicOperation where
  | core (operation : Operation)
  | configureInitUserspace (name : Bytes) (arguments : List Bytes) (cwdNode : Nat)
  | setRunning (handle : Nat)
  | setRunnable (handle : Nat)
  | scheduleNext (current : Option Nat)
  | scheduleNextKind (kind : Kind) (current : Option Nat)
  | accountTick (handle : Nat)
  | accountSyscall (handle : Nat)
  | sleep (handle wakeTick : Nat)
  | block (handle : Nat) (reason : WaitReason) (target : Nat)
  | wakeExpired (tick : Nat)
  | wakeMatching (reason : WaitReason) (target : Nat) (all : Bool)
  | takeSignal (handle : Nat)
  | setSignalMask (handle mask : Nat)
  | setUmask (handle mask : Nat)
  | reapOrphans
  | setResourceUsage (handle pages descriptors sockets : Nat)
  | setWorkingDirectory (handle cwdNode : Nat)
  | setProcessGroup (caller target group : Nat)

/-- The table an operation leaves behind, whether it succeeds or fails. -/
def PublicOperation.apply (table : Table) : PublicOperation → Table
  | .core operation => operation.apply table
  | .configureInitUserspace name arguments cwdNode =>
    (Table.configureInitUserspace name arguments cwdNode table).2
  | .setRunning handle => (Table.setRunning handle table).2
  | .setRunnable handle => (Table.setRunnable handle table).2
  | .scheduleNext current => (table.scheduleNext current).2
  | .scheduleNextKind kind current => (table.scheduleNextKind kind current).2
  | .accountTick handle => (Table.accountTick handle table).2
  | .accountSyscall handle => (Table.accountSyscall handle table).2
  | .sleep handle wakeTick => (Table.sleep handle wakeTick table).2
  | .block handle reason target => (Table.block handle reason target table).2
  | .wakeExpired tick => table.wakeExpired tick
  | .wakeMatching reason target all => (table.wakeMatching reason target all).2
  | .takeSignal handle => (Table.takeSignal handle table).2
  | .setSignalMask handle mask => (Table.setSignalMask handle mask table).2
  | .setUmask handle mask => (Table.setUmask handle mask table).2
  | .reapOrphans => table.reapOrphans.2
  | .setResourceUsage handle pages descriptors sockets =>
    (Table.setResourceUsage handle pages descriptors sockets table).2
  | .setWorkingDirectory handle cwdNode => (Table.setWorkingDirectory handle cwdNode table).2
  | .setProcessGroup caller target group => (Table.setProcessGroup caller target group table).2

/-! ### Orderly steps -/

/-- The table accepts the spawn. -/
structure SpawnAccepted (table : Table) (parentSlot : Nat) (request : SpawnRequest)
    (group : SpawnGroup) : Prop where
  name : 0 < request.name.length ∧ request.name.length ≤ maximumNameLength
  arguments : request.arguments.length ≤ maximumArguments
  short : ∀ argument ∈ request.arguments, argument.length ≤ maximumArgumentLength
  quota : parentSlot = invalidSlot ∨
    (table.processes parentSlot).childCount < (table.processes parentSlot).limits.maximumChildren
  room : ∃ slot < maximumProcesses, (table.processes slot).used = false
  member : (table.spawnProcessGroup parentSlot table.nextPid group).isOk = true

/-- A spawn that is accepted has a parent, and one that has not ended. -/
def SpawnsOrderly (table : Table) (parent : Option Nat) (request : SpawnRequest)
    (group : SpawnGroup) : Prop :=
  ∀ parentSlot, table.resolveParent parent = .ok parentSlot →
    SpawnAccepted table parentSlot request group →
      parentSlot ≠ invalidSlot ∧ (table.processes parentSlot).terminal = false

/-- `init` ends only when it has no children. -/
def EndsOrderly (table : Table) (handle : Nat) : Prop :=
  ∀ slot, table.resolve handle = .ok slot → handle = table.initHandle → table.children slot = 0

/-- The signal gets through to its target. -/
def Delivers (table : Table) (sender target : Nat) : Prop :=
  ∃ senderSlot targetSlot, table.resolve sender = .ok senderSlot ∧
    table.resolve target = .ok targetSlot ∧ (table.processes targetSlot).terminal = false ∧
    ((table.processes senderSlot).uid = 0 ∨
      (table.processes senderSlot).uid = (table.processes targetSlot).uid)

def SignalsOrderly (table : Table) (sender target signal : Nat) : Prop :=
  signal = 9 → Delivers table sender target → EndsOrderly table target

/-- The same for a group signal, for each member at the moment its signal is delivered. -/
def GroupSignalsOrderly (sender signal : Nat) : Table → List Nat → Prop
  | _, [] => True
  | table, target :: rest =>
    SignalsOrderly table sender target signal ∧
      ∀ after, Table.sendSignal sender target signal table = (.ok (), after) →
        GroupSignalsOrderly sender signal after rest

/-- The processor time of a running process is used up by the next tick. -/
def TickEnds (table : Table) (handle : Nat) : Prop :=
  ∃ slot, table.resolve handle = .ok slot ∧ (table.processes slot).state = .running ∧
    (table.processes slot).limits.maximumCpuTicks ≤ wrapIncrement 64 (table.processes slot).cpuTicks

/-- What keeps the tree well formed: no accepted spawn lacks a live parent, and `init` does not
end before its children. -/
def PublicOperation.Orderly (table : Table) : PublicOperation → Prop
  | .core (.spawn parent request) => SpawnsOrderly table parent request .inherit
  | .core (.spawnPipeline parent request group) =>
    group ≠ .inherit → SpawnsOrderly table (some parent) request group
  | .core (.exit handle _) => EndsOrderly table handle
  | .core (.fault handle _ _) => EndsOrderly table handle
  | .core (.sendSignal sender target signal) => SignalsOrderly table sender target signal
  | .core (.sendGroupSignal sender group signal) =>
    GroupSignalsOrderly sender signal table (table.groupTargets group)
  | .accountTick handle => TickEnds table handle → EndsOrderly table handle
  | _ => True

/-! ### Every call keeps the tree -/

def KeepsTree (before after : Table) : Prop := TreeSound before → TreeSound after

instance : Std.Refl KeepsTree where
  refl _ := id

instance : IsTrans Table KeepsTree where
  trans _ _ _ start finish := finish ∘ start

variable {before after : Table}

theorem keepsTree_of_same (same : SameTree before after) : KeepsTree before after := same.treeSound

theorem keepsTree_of_links (same : SameLinks before after) :
    KeepsTree before after := same.treeSound

/-- What a spawn does: nothing but use up a pid, or install a new process. -/
inductive SpawnOutcome (table : Table) (parent : Option Nat) (request : SpawnRequest)
    (group : SpawnGroup) : Except Error Nat → Table → Prop
  | refused (failure : Error) (reuses nextPid : Nat) :
      SpawnOutcome table parent request group (.error failure)
        { table with slotReuses := reuses, nextPid }
  | accepted (reuses nextPid : Nat) {parentSlot slot : Nat} (processGroup : Nat)
      (resolved : table.resolveParent parent = .ok parentSlot)
      (accepts : SpawnAccepted table parentSlot request group)
      (below : slot < maximumProcesses) (free : (table.processes slot).used = false) :
      SpawnOutcome table parent request group
        (.ok (table.newProcess request slot parentSlot table.nextPid processGroup).handle)
        (({ table with slotReuses := reuses, nextPid } : Table).install slot parentSlot
          (table.newProcess request slot parentSlot table.nextPid processGroup))

theorem spawnInternal_outcome (parent : Option Nat) (request : SpawnRequest) (group : SpawnGroup)
    (table : Table) :
    Yields (SpawnOutcome table parent request group) table
      (spawnInternal parent request group) := by
  have untouched (failure : Error) : SpawnOutcome table parent request group (.error failure) table :=
    .refused failure table.slotReuses table.nextPid
  refine yields_failWhen (fun _ => untouched _) fun named =>
    yields_failWhen (fun _ => untouched _) fun few => ?_
  refine yields_state (yields_lift (fun _ _ => untouched _) fun parentSlot resolved => ?_)
  refine yields_failWhen (fun _ => untouched _) fun quota =>
    yields_lift (fun _ _ => untouched _) fun slot free => yields_change ?_
  refine yields_lift (fun failure _ => .refused failure _ _) fun processGroup member =>
    yields_failWhen (fun _ => .refused _ _ _) fun short => yields_change (yields_pure ?_)
  obtain ⟨below, unused⟩ : slot < maximumProcesses ∧ (table.processes slot).used = false := by
    split at free
    · rename_i found
      cases free
      exact ⟨firstIndex_lt found, by simpa using firstIndex_test found⟩
    · cases free
  refine .accepted _ _ processGroup resolved ?_ below unused
  push Not at named few quota short
  refine ⟨⟨Nat.pos_of_ne_zero named.1, named.2⟩, few, short, ?_, ⟨slot, below, unused⟩, ?_⟩
  · by_cases orphaned : parentSlot = invalidSlot
    · exact .inl orphaned
    · exact .inr (quota orphaned)
  · rw [member]
    rfl

variable {table : Table} {parent : Option Nat} {request : SpawnRequest} {group : SpawnGroup}
  {result : Except Error Nat}

/-- A spawn is orderly when the parent is live, so that the tree gets a new leaf. -/
theorem SpawnOutcome.tree (outcome : SpawnOutcome table parent request group result after)
    (orderly : SpawnsOrderly table parent request group) : KeepsTree table after := by
  intro sound
  have counted (reuses nextPid : Nat) : TreeSound { table with slotReuses := reuses, nextPid } := by
    have same : SameTree table { table with slotReuses := reuses, nextPid } :=
      sameTree_of_processes rfl rfl rfl
    exact same.treeSound sound
  cases outcome with
  | refused failure reuses nextPid => exact counted reuses nextPid
  | @accepted reuses nextPid parentSlot slot processGroup resolved accepts below free =>
    obtain ⟨real, alive⟩ := orderly parentSlot resolved accepts
    cases parent with
    | none => exact absurd (Except.ok.inj resolved).symm real
    | some handle =>
      obtain ⟨parentBelow, parentUsed, -⟩ := resolve_ok resolved
      exact (counted reuses nextPid).install below free parentBelow parentUsed alive

theorem spawnInternal_tree (orderly : SpawnsOrderly table parent request group) :
    KeepsFrom KeepsTree table (spawnInternal parent request group) :=
  (spawnInternal_outcome parent request group table).tree orderly

theorem spawnPipeline_tree {parent : Nat}
    (orderly : group ≠ .inherit → SpawnsOrderly table (some parent) request group) :
    KeepsFrom KeepsTree table (spawnPipeline parent request group) :=
  keepsFrom_failWhen fun pipeline => spawnInternal_tree (orderly pipeline)

variable {dying : Table} {handle slot : Nat}

/-- The end of a process: it is marked, its children go to `init`, and its parent wakes. -/
theorem terminate_tree (resolved : table.resolve handle = .ok slot) (ends : EndsAt table dying slot)
    (orderly : EndsOrderly table handle) :
    KeepsTree table ((dying.reparentChildren slot).wakeParent slot) := by
  intro sound
  obtain ⟨below, used, -⟩ := resolve_ok resolved
  refine (wakeParent_sameTree _ slot).treeSound (ends.treeSound sound below used fun atInit => ?_)
  subst atInit
  exact orderly 0 resolved (sound.handle_init resolved)

/-- One process ended: its entry changed, and counters. -/
theorem endsAt_of_update (entry : Process)
    (entries : dying.processes = update before.processes slot entry)
    (links : entry.links = (before.processes slot).links) (ended : entry.terminal = true)
    (init : dying.initHandle = before.initHandle) : EndsAt before dying slot := by
  refine ⟨fun other different => ?_, ?_, ?_, init⟩
  · rw [entries, update_of_ne different]
  · rw [entries, update_self, links]
  · rw [entries, update_self, ended]

/-- The entry of a process that exits. -/
def Process.exited (process : Process) (status sequence : Nat) : Process :=
  { process with
    state := .zombie
    exitStatus := status
    terminalSequence := sequence
    waitReason := .none
    wakeTick := 0
    waitTarget := 0 }

/-- The entry of a process that faults. -/
def Process.crashed (process : Process) (vector address sequence : Nat) : Process :=
  { process with
    state := .faulted
    terminalSequence := sequence
    faultVector := vector
    faultAddress := address
    exitStatus := 0x80000000 ||| vector
    waitReason := .none }

theorem exit_tree (status : Nat) (orderly : EndsOrderly table handle) :
    KeepsFrom KeepsTree table (exit handle status) := by
  refine keepsFrom_state (keepsFrom_lift fun slot resolved =>
    keepsFrom_failWhen fun _ => keepsFrom_change ?_)
  refine terminate_tree resolved (endsAt_of_update
    ((table.processes slot).exited status table.nextTerminalSequence) ?_ rfl rfl rfl) orderly
  simp [Table.recordTerminalSequence, Table.modify, exited]

theorem fault_tree (vector address : Nat) (orderly : EndsOrderly table handle) :
    KeepsFrom KeepsTree table (fault handle vector address) := by
  refine keepsFrom_state (keepsFrom_lift fun slot resolved =>
    keepsFrom_failWhen fun _ => keepsFrom_change ?_)
  refine terminate_tree resolved (endsAt_of_update
    ((table.processes slot).crashed vector address table.nextTerminalSequence) ?_ rfl rfl rfl) orderly
  simp [Table.recordTerminalSequence, Table.modify, crashed]

/-- Whether `init` may end is a question about links. -/
theorem SameTree.endsOrderly (same : SameTree before after)
    (orderly : EndsOrderly before handle) : EndsOrderly after handle := by
  intro slot resolved isInit
  have used (slot : Nat) : (after.processes slot).used = (before.processes slot).used :=
    congrArg Links.used (same.nodes slot).links
  rw [children_congr used fun slot => congrArg Links.parentSlot (same.nodes slot).links]
  refine orderly slot ?_ (isInit.trans same.init)
  rwa [resolve_congr handle fun slot => ⟨used slot, congrArg Links.generation (same.nodes slot).links,
    congrArg Links.handle (same.nodes slot).links⟩] at resolved

theorem accountTick_tree (orderly : TickEnds table handle → EndsOrderly table handle) :
    KeepsFrom KeepsTree table (accountTick handle) := by
  refine keepsFrom_state (keepsFrom_lift fun slot resolved =>
    keepsFrom_failWhen fun running => ?_)
  let counted := table.modify slot fun process =>
    { process with cpuTicks := wrapIncrement 64 process.cpuTicks }
  have same : SameTree table counted := sameTree_modify (SameNode.of_ending rfl rfl)
  refine keepsFrom_change_bind (keepsTree_of_same same) ?_
  refine keepsFrom_state (keepsFrom_ite (fun spent => ?_) fun _ => ?_)
  · have ticks : TickEnds table handle := by
      refine ⟨slot, resolved, not_not.mp running, ?_⟩
      rwa [modify_self] at spent
    exact keepsFrom_bind (exit_tree _ (same.endsOrderly (orderly ticks)))
      fun _ _ _ => keepsFrom_pure _
  · refine keepsFrom_change_bind (keepsTree_of_same ?_) (keepsFrom_pure _)
    exact sameTree_modify (SameNode.of_ending rfl rfl)

variable {sender signal : Nat}

theorem sendSignal_tree {target : Nat} (orderly : SignalsOrderly table sender target signal) :
    KeepsFrom KeepsTree table (sendSignal sender target signal) := by
  refine keepsFrom_failWhen fun _ => keepsFrom_state ?_
  refine keepsFrom_lift fun senderSlot fromSender => keepsFrom_lift fun slot resolved => ?_
  refine keepsFrom_failWhen fun alive => keepsFrom_failWhen fun permitted => ?_
  have same : SameTree table { table.modify slot (addPending signal) with
      totalSignals := wrapIncrement 64 table.totalSignals } :=
    sameTree_of_update rfl (SameNode.of_ending rfl rfl) rfl rfl
  refine keepsFrom_change_bind (keepsTree_of_same same) ?_
  refine keepsFrom_ite (fun kill => ?_) fun _ => keepsFrom_ite (fun _ => ?_) fun _ =>
    keepsFrom_ite (fun _ => ?_) fun _ => ?_
  · refine exit_tree _ (same.endsOrderly (orderly kill ⟨senderSlot, slot, fromSender, resolved,
      not_terminal alive, ?_⟩))
    rwa [not_and_or, not_not, not_not] at permitted
  · exact (stop_sameTree target _).treeSound
  · exact (continueProcess_sameTree target _).treeSound
  · exact keepsFrom_change (keepsTree_of_same (sameTree_modify (interrupt_sameNode _)))

theorem signalEach_tree (targets : List Nat)
    (orderly : GroupSignalsOrderly sender signal table targets) :
    KeepsFrom KeepsTree table (signalEach sender signal targets) := by
  induction targets generalizing table with
  | nil => exact refl table
  | cons target rest hypothesis =>
    exact keepsFrom_bind (sendSignal_tree orderly.1) fun _ after outcome =>
      hypothesis (orderly.2 after outcome)

theorem sendGroupSignal_tree {group : Nat}
    (orderly : GroupSignalsOrderly sender signal table (table.groupTargets group)) :
    KeepsFrom KeepsTree table (sendGroupSignal sender group signal) :=
  keepsFrom_state (keepsFrom_bind (signalEach_tree _ orderly) fun _ _ _ =>
    keepsFrom_pure _)

variable {parentSlot childSlot : Nat}

theorem reapSlot_tree (parentBelow : parentSlot < maximumProcesses)
    (below : childSlot < maximumProcesses) : Keeps KeepsTree (reapSlot parentSlot childSlot) := by
  refine keeps_of_keepsFrom fun table => keepsFrom_state ?_
  refine keepsFrom_failWhen fun mine => keepsFrom_failWhen fun ended => ?_
  refine keepsFrom_change_bind (fun sound => ?_) (keepsFrom_pure _)
  push Not at mine
  refine SameTree.treeSound ?_
    (sound.reap below (by simpa using mine.1) mine.2 (by simpa using ended) parentBelow)
  exact sameTree_of_processes rfl rfl rfl

theorem reapEach_tree (parentBelow : parentSlot < maximumProcesses) (slots : List Nat)
    (below : ∀ slot ∈ slots, slot < maximumProcesses) :
    Keeps KeepsTree (reapEach parentSlot slots) := by
  induction slots with
  | nil => exact keeps_ok 0
  | cons slot rest hypothesis =>
    have others := hypothesis fun other member => below other (List.mem_cons_of_mem _ member)
    refine keeps_state_bind fun _ => keeps_ite others ?_
    exact keeps_bind (reapSlot_tree parentBelow (below slot List.mem_cons_self)) fun _ =>
      keeps_bind others fun _ => keeps_pure _

theorem reapTerminalChildren_tree (parent : Nat) :
    Keeps KeepsTree (reapTerminalChildren parent) := by
  refine keeps_of_keepsFrom fun table => keepsFrom_state ?_
  refine keepsFrom_lift fun parentSlot resolved => ?_
  exact reapEach_tree (resolve_ok resolved).1 _ (fun slot member => List.mem_range.mp member) table

theorem reapOrphans_tree (table : Table) : KeepsTree table table.reapOrphans.2 := by
  have kept := reapTerminalChildren_tree table.initHandle table
  unfold reapOrphans
  split <;> (rename_i outcome; rwa [outcome] at kept)

/-- A wait that finds an ended child reaps it. -/
theorem reapOne_tree (parentBelow : parentSlot < maximumProcesses)
    (below : childSlot < maximumProcesses) : KeepsFrom KeepsTree table ((do
      let status ← reapSlot parentSlot childSlot
      return some status) : TableCall (Option Status)) :=
  keepsFrom_bind (reapSlot_tree parentBelow below table) fun _ _ _ => keepsFrom_pure _

/-- A wait that finds none puts its caller to sleep. -/
theorem blockOnChild_tree (parentSlot : Nat) (refuses : Prop) [Decidable refuses]
    (nonblocking : Bool) (target : Nat) (group : Bool) : KeepsFrom KeepsTree table ((do
      failWhen refuses .notChild
      change fun table =>
        if nonblocking then table else table.modify parentSlot (blockOnChild target group)
      return none) : TableCall (Option Status)) := by
  refine keepsFrom_failWhen fun _ => keepsFrom_change_bind ?_ (keepsFrom_pure _)
  split
  · exact refl table
  · exact keepsTree_of_links (sameLinks_of_update rfl rfl rfl rfl)

theorem waitCandidate_lt {target : Option Nat}
    (found : table.waitCandidate parentSlot target = some slot) : slot < maximumProcesses := by
  cases target with
  | some target => exact firstIndex_lt found
  | none => exact (leastIndex_eq_some found).1

theorem wait_tree (parent : Nat) (target : Option Nat) (nonblocking : Bool) :
    Keeps KeepsTree (wait parent target nonblocking) := by
  refine keeps_of_keepsFrom fun table => keepsFrom_state ?_
  refine keepsFrom_lift fun parentSlot resolved => ?_
  split
  · rename_i slot found
    exact reapOne_tree (resolve_ok resolved).1 (waitCandidate_lt found)
  · exact blockOnChild_tree parentSlot _ nonblocking _ _

theorem waitGroup_tree (parent group : Nat) (nonblocking : Bool) :
    Keeps KeepsTree (waitGroup parent group nonblocking) := by
  refine keeps_of_keepsFrom fun table => keepsFrom_failWhen fun _ => ?_
  refine keepsFrom_state (keepsFrom_lift fun parentSlot resolved => ?_)
  split
  · rename_i slot found
    exact reapOne_tree (resolve_ok resolved).1 (leastIndex_eq_some found).1
  · exact blockOnChild_tree parentSlot _ nonblocking _ _

variable (name : Bytes) (arguments : List Bytes) (cwdNode : Nat)

theorem configureInitUserspace_tree :
    Keeps KeepsTree (configureInitUserspace name arguments cwdNode) := by
  refine keeps_of_keepsFrom fun table => keepsFrom_failWhen fun _ => ?_
  refine keepsFrom_failWhen fun _ => keepsFrom_state ?_
  refine keepsFrom_lift fun slot _ => keepsFrom_failWhen fun _ => ?_
  refine keepsFrom_failWhen fun _ => keepsFrom_change ?_
  exact keepsTree_of_links (sameLinks_of_update rfl rfl rfl rfl)

variable (operation : PublicOperation)

theorem PublicOperation.apply_tree
    (orderly : operation.Orderly table) : KeepsTree table (operation.apply table) := by
  cases operation with
  | core operation =>
    cases operation with
    | spawn parent request => exact spawnInternal_tree orderly
    | spawnPipeline parent request group => exact spawnPipeline_tree orderly
    | exit handle status => exact exit_tree status orderly
    | fault handle vector address => exact fault_tree vector address orderly
    | sendSignal sender target signal => exact sendSignal_tree orderly
    | sendGroupSignal sender group signal => exact sendGroupSignal_tree orderly
    | wait parent target nonblocking => exact wait_tree parent target nonblocking table
    | waitGroup parent group nonblocking => exact waitGroup_tree parent group nonblocking table
    | reapTerminalChildren parent => exact reapTerminalChildren_tree parent table
    | stop handle => exact (stop_sameTree handle table).treeSound
    | continueProcess handle => exact (continueProcess_sameTree handle table).treeSound
  | configureInitUserspace name arguments cwdNode =>
    exact configureInitUserspace_tree name arguments cwdNode table
  | setRunning handle => exact (setRunning_sameTree handle table).treeSound
  | setRunnable handle => exact (setRunnable_sameTree handle table).treeSound
  | scheduleNext current => exact (scheduleNextEligible_sameTree table current none).treeSound
  | scheduleNextKind kind current =>
    exact (scheduleNextEligible_sameTree table current (some kind)).treeSound
  | accountTick handle => exact accountTick_tree orderly
  | accountSyscall handle => exact (accountSyscall_sameTree handle table).treeSound
  | sleep handle wakeTick => exact (sleep_sameTree handle wakeTick table).treeSound
  | block handle reason target => exact (block_sameTree handle reason target table).treeSound
  | wakeExpired tick => exact (wakeExpired_sameTree table tick).treeSound
  | wakeMatching reason target all => exact (wakeMatching_sameTree table reason target all).treeSound
  | takeSignal handle => exact (takeSignal_sameTree handle table).treeSound
  | setSignalMask handle mask => exact (setSignalMask_sameTree handle mask table).treeSound
  | setUmask handle mask => exact (setUmask_sameTree handle mask table).treeSound
  | reapOrphans => exact reapOrphans_tree table
  | setResourceUsage handle pages descriptors sockets =>
    exact (setResourceUsage_sameTree handle pages descriptors sockets table).treeSound
  | setWorkingDirectory handle cwdNode =>
    exact (setWorkingDirectory_sameTree handle cwdNode table).treeSound
  | setProcessGroup caller target group =>
    exact (setProcessGroup_sameTree caller target group table).treeSound

/-! ### What becomes of a slot -/

/-- The slot kept its occupant or lost it. -/
structure SameOccupant (before after : Process) : Prop where
  generation : after.generation = before.generation
  occupant : after.used = true →
    before.used = true ∧ after.handle = before.handle ∧ after.pid = before.pid

theorem SameOccupant.refl (process : Process) : SameOccupant process process :=
  ⟨rfl, fun used => ⟨used, rfl, rfl⟩⟩

theorem SameOccupant.trans {first second third : Process} (start : SameOccupant first second)
    (finish : SameOccupant second third) : SameOccupant first third := by
  refine ⟨finish.generation.trans start.generation, fun used => ?_⟩
  obtain ⟨middle, handle, pid⟩ := finish.occupant used
  obtain ⟨earlier, handle', pid'⟩ := start.occupant middle
  exact ⟨earlier, handle.trans handle', pid.trans pid'⟩

theorem sameOccupant_of_links {before after : Process} (same : after.links = before.links) :
    SameOccupant before after :=
  ⟨congrArg Links.generation same, fun used => ⟨(congrArg Links.used same).symm.trans used,
    congrArg Links.handle same, congrArg Links.pid same⟩⟩

/-- No slot got a new occupant. -/
def Thins (before after : Table) : Prop :=
  ∀ slot, SameOccupant (before.processes slot) (after.processes slot)

instance : Std.Refl Thins where
  refl _ _ := SameOccupant.refl _

instance : IsTrans Table Thins where
  trans _ _ _ start finish := fun slot => (start slot).trans (finish slot)

theorem SameTree.thins (same : SameTree before after) : Thins before after :=
  fun slot => sameOccupant_of_links (same.nodes slot).links

theorem thins_of_update {entry : Process}
    (entries : after.processes = update before.processes slot entry)
    (same : SameOccupant (before.processes slot) entry) : Thins before after := by
  intro other
  rw [entries, update_apply]
  split
  · rename_i here
    subst here
    exact same
  · exact SameOccupant.refl _

theorem reparentChildren_thins (table : Table) (slot : Nat) :
    Thins table (table.reparentChildren slot) := by
  intro other
  unfold Table.reparentChildren
  split
  · exact SameOccupant.refl _
  · simp only [modify_apply, Table.modifyWhere]
    split_ifs <;> exact ⟨rfl, fun used => ⟨used, rfl, rfl⟩⟩

theorem terminate_thins (dies : Thins table dying) :
    Thins table ((dying.reparentChildren slot).wakeParent slot) :=
  IsTrans.trans _ _ _ (IsTrans.trans _ _ _ dies (reparentChildren_thins dying slot))
    (wakeParent_sameTree _ slot).thins

theorem exit_thins (handle status : Nat) : Keeps Thins (exit handle status) := by
  refine keeps_state_bind fun _ => keeps_lift_bind fun slot => ?_
  refine keeps_failWhen_bind fun _ => keeps_change fun table => ?_
  have dies {dying : Table} (entries : dying.processes = update table.processes slot
      ((table.processes slot).exited status table.nextTerminalSequence)) : Thins table dying :=
    thins_of_update entries (sameOccupant_of_links rfl)
  refine terminate_thins (dies ?_)
  simp [Table.recordTerminalSequence, Table.modify, exited]

theorem fault_thins (handle vector address : Nat) : Keeps Thins (fault handle vector address) := by
  refine keeps_state_bind fun _ => keeps_lift_bind fun slot => ?_
  refine keeps_failWhen_bind fun _ => keeps_change fun table => ?_
  have dies {dying : Table} (entries : dying.processes = update table.processes slot
      ((table.processes slot).crashed vector address table.nextTerminalSequence)) :
      Thins table dying :=
    thins_of_update entries (sameOccupant_of_links rfl)
  refine terminate_thins (dies ?_)
  simp [Table.recordTerminalSequence, Table.modify, crashed]

theorem thins_of_keeps {Value : Type} {call : TableCall Value} (keeps : Keeps SameTree call) :
    Keeps Thins call := fun table => (keeps table).thins

theorem accountTick_thins (handle : Nat) : Keeps Thins (accountTick handle) := by
  have account (slot : Nat) (step : Process → Process)
      (same : ∀ process, (step process).links = process.links) :
      Keeps Thins ((change fun table => table.modify slot step) : TableCall Unit) :=
    keeps_change fun _ => thins_of_update rfl (sameOccupant_of_links (same _))
  refine keeps_state_bind fun _ => keeps_lift_bind fun slot => ?_
  refine keeps_failWhen_bind fun _ => ?_
  refine keeps_bind (account slot _ fun _ => rfl) fun _ => keeps_bind keeps_state
    fun _ => keeps_ite ?_ ?_
  · exact keeps_bind (exit_thins _ _) fun _ => keeps_pure _
  · exact keeps_bind (account slot _ fun _ => rfl) fun _ => keeps_pure _

theorem sendSignal_thins (sender target signal : Nat) :
    Keeps Thins (sendSignal sender target signal) := by
  refine keeps_failWhen_bind fun _ => keeps_bind keeps_state
    fun _ => keeps_lift_bind fun _ => keeps_bind (keeps_lift _) fun slot => ?_
  refine keeps_failWhen_bind fun _ =>
    keeps_failWhen_bind fun _ => keeps_bind ?_ fun _ => ?_
  · exact keeps_change fun _ => thins_of_update rfl (sameOccupant_of_links rfl)
  · refine keeps_ite (exit_thins _ _) (keeps_ite (thins_of_keeps (stop_sameTree _))
      (keeps_ite (thins_of_keeps (continueProcess_sameTree _)) ?_))
    exact keeps_change fun _ => (sameTree_modify (interrupt_sameNode _)).thins

theorem signalEach_thins (sender signal : Nat) (targets : List Nat) :
    Keeps Thins (signalEach sender signal targets) := by
  induction targets with
  | nil => exact keeps_ok ()
  | cons target rest hypothesis =>
    exact keeps_bind (sendSignal_thins _ _ _) fun _ => hypothesis

theorem reapSlot_thins (parentSlot childSlot : Nat) :
    Keeps Thins (reapSlot parentSlot childSlot) := by
  refine keeps_state_bind fun _ => keeps_failWhen_bind fun _ =>
    keeps_failWhen_bind fun _ => keeps_bind ?_ fun _ => keeps_pure _
  refine keeps_change fun table other => ?_
  simp only [modify_apply]
  split_ifs
  · exact ⟨rfl, nofun⟩
  · exact ⟨rfl, fun used => ⟨used, rfl, rfl⟩⟩
  · exact ⟨rfl, nofun⟩
  · exact SameOccupant.refl _

theorem reapEach_thins (parentSlot : Nat) (slots : List Nat) :
    Keeps Thins (reapEach parentSlot slots) := by
  induction slots with
  | nil => exact keeps_ok 0
  | cons slot rest hypothesis =>
    exact keeps_state_bind fun _ => keeps_ite hypothesis
      (keeps_bind (reapSlot_thins _ _) fun _ => keeps_bind hypothesis fun _ =>
        keeps_pure _)

theorem reapTerminalChildren_thins (parent : Nat) : Keeps Thins (reapTerminalChildren parent) :=
  keeps_state_bind fun _ => keeps_lift_bind fun _ =>
    reapEach_thins _ _

theorem reapOne_thins (parentSlot childSlot : Nat) : Keeps Thins ((do
      let status ← reapSlot parentSlot childSlot
      return some status) : TableCall (Option Status)) :=
  keeps_bind (reapSlot_thins _ _) fun _ => keeps_pure _

theorem blockOnChild_thins (parentSlot : Nat) (refuses : Prop) [Decidable refuses]
    (nonblocking : Bool) (target : Nat) (group : Bool) :
    Keeps Thins ((do
      failWhen refuses .notChild
      change fun table =>
        if nonblocking then table else table.modify parentSlot (blockOnChild target group)
      return none) : TableCall (Option Status)) := by
  refine keeps_failWhen_bind fun _ => keeps_bind ?_ fun _ =>
    keeps_pure _
  refine keeps_change fun table => ?_
  split
  · exact refl table
  · exact thins_of_update rfl (sameOccupant_of_links rfl)

theorem wait_thins (parent : Nat) (target : Option Nat) (nonblocking : Bool) :
    Keeps Thins (wait parent target nonblocking) := by
  refine keeps_state_bind fun _ => keeps_lift_bind fun _ => ?_
  split
  · exact reapOne_thins _ _
  · exact blockOnChild_thins _ _ _ _ _

theorem waitGroup_thins (parent group : Nat) (nonblocking : Bool) :
    Keeps Thins (waitGroup parent group nonblocking) := by
  refine keeps_failWhen_bind fun _ => ?_
  refine keeps_state_bind fun _ => keeps_lift_bind fun _ => ?_
  split
  · exact reapOne_thins _ _
  · exact blockOnChild_thins _ _ _ _ _

theorem configureInitUserspace_thins :
    Keeps Thins (configureInitUserspace name arguments cwdNode) := by
  refine keeps_failWhen_bind fun _ =>
    keeps_failWhen_bind fun _ => keeps_state_bind fun _ =>
      keeps_lift_bind fun _ => ?_
  refine keeps_failWhen_bind fun _ =>
    keeps_failWhen_bind fun _ => keeps_change fun _ => ?_
  exact thins_of_update rfl (sameOccupant_of_links rfl)

/-- What an operation can do to a slot: keep its occupant, take it away, or fill the slot. -/
def Turnover (before after : Process) : Prop :=
  SameOccupant before after ∨ before.used = false ∧ after.used = true ∧
    after.generation = nextGeneration before.generation

theorem install_turnover (table : Table) (process : Process)
    (free : (table.processes slot).used = false) (used : process.used = true)
    (next : process.generation = nextGeneration (table.processes slot).generation) (other : Nat) :
    Turnover (table.processes other) ((table.install slot parentSlot process).processes other) := by
  have placed (entry : Process) (isUsed : entry.used = process.used)
      (generation : entry.generation = process.generation) :
      Turnover (table.processes slot) entry :=
    .inr ⟨free, isUsed.trans used, generation.trans next⟩
  unfold Table.install
  split
  · rw [modify_apply]
    split
    · rename_i here
      subst here
      exact placed _ rfl rfl
    · exact .inl (SameOccupant.refl _)
  · rw [modify_apply, modify_apply]
    obtain rfl | here := eq_or_ne other slot
    · rw [if_pos rfl]
      split
      · exact placed _ rfl rfl
      · exact placed _ rfl rfl
    · split
      · exact .inl ⟨rfl, fun used => ⟨used, rfl, rfl⟩⟩
      · exact .inl (SameOccupant.refl _)

theorem SpawnOutcome.turnover (outcome : SpawnOutcome table parent request group result after)
    (slot : Nat) : Turnover (table.processes slot) (after.processes slot) := by
  cases outcome with
  | refused failure reuses nextPid => exact .inl (SameOccupant.refl _)
  | @accepted reuses nextPid parentSlot free processGroup _ _ _ unused =>
    exact install_turnover { table with slotReuses := reuses, nextPid }
      (table.newProcess request free parentSlot table.nextPid processGroup) unused rfl rfl slot

theorem spawnInternal_turnover (parent : Option Nat) (request : SpawnRequest) (group : SpawnGroup)
    (table : Table) (slot : Nat) :
    Turnover (table.processes slot) ((spawnInternal parent request group table).2.processes slot) :=
  (spawnInternal_outcome parent request group table).turnover slot

/-- The operations that make processes. -/
def PublicOperation.spawns : PublicOperation → Bool
  | .core (.spawn _ _) => true
  | .core (.spawnPipeline _ _ _) => true
  | _ => false

theorem PublicOperation.apply_thins {operation : PublicOperation} (other : operation.spawns = false)
    (table : Table) : Thins table (operation.apply table) := by
  cases operation with
  | core operation =>
    cases operation with
    | spawn parent request => cases other
    | spawnPipeline parent request group => cases other
    | exit handle status => exact exit_thins handle status table
    | fault handle vector address => exact fault_thins handle vector address table
    | sendSignal sender target signal => exact sendSignal_thins sender target signal table
    | sendGroupSignal sender group signal =>
      exact (keeps_state_bind fun _ => keeps_bind
        (signalEach_thins sender signal _) fun _ => keeps_pure _ :
          Keeps Thins (Table.sendGroupSignal sender group signal)) table
    | wait parent target nonblocking => exact wait_thins parent target nonblocking table
    | waitGroup parent group nonblocking => exact waitGroup_thins parent group nonblocking table
    | reapTerminalChildren parent => exact reapTerminalChildren_thins parent table
    | stop handle => exact (stop_sameTree handle table).thins
    | continueProcess handle => exact (continueProcess_sameTree handle table).thins
  | configureInitUserspace name arguments cwdNode =>
    exact configureInitUserspace_thins name arguments cwdNode table
  | setRunning handle => exact (setRunning_sameTree handle table).thins
  | setRunnable handle => exact (setRunnable_sameTree handle table).thins
  | scheduleNext current => exact (scheduleNextEligible_sameTree table current none).thins
  | scheduleNextKind kind current =>
    exact (scheduleNextEligible_sameTree table current (some kind)).thins
  | accountTick handle => exact accountTick_thins handle table
  | accountSyscall handle => exact (accountSyscall_sameTree handle table).thins
  | sleep handle wakeTick => exact (sleep_sameTree handle wakeTick table).thins
  | block handle reason target => exact (block_sameTree handle reason target table).thins
  | wakeExpired tick => exact (wakeExpired_sameTree table tick).thins
  | wakeMatching reason target all => exact (wakeMatching_sameTree table reason target all).thins
  | takeSignal handle => exact (takeSignal_sameTree handle table).thins
  | setSignalMask handle mask => exact (setSignalMask_sameTree handle mask table).thins
  | setUmask handle mask => exact (setUmask_sameTree handle mask table).thins
  | reapOrphans =>
    have kept := reapTerminalChildren_thins table.initHandle table
    simp only [PublicOperation.apply, Table.reapOrphans]
    split <;> (rename_i outcome; rwa [outcome] at kept)
  | setResourceUsage handle pages descriptors sockets =>
    exact (setResourceUsage_sameTree handle pages descriptors sockets table).thins
  | setWorkingDirectory handle cwdNode =>
    exact (setWorkingDirectory_sameTree handle cwdNode table).thins
  | setProcessGroup caller target group =>
    exact (setProcessGroup_sameTree caller target group table).thins

theorem spawnPipeline_turnover (parent : Nat) (request : SpawnRequest) (group : SpawnGroup)
    (table : Table) (slot : Nat) :
    Turnover (table.processes slot) ((spawnPipeline parent request group table).2.processes slot) := by
  simp only [Table.spawnPipeline, bind_failWhen]
  split
  · exact .inl (SameOccupant.refl _)
  · exact spawnInternal_turnover (some parent) request group table slot

theorem PublicOperation.apply_turnover (table : Table) (slot : Nat) :
    Turnover (table.processes slot) ((operation.apply table).processes slot) := by
  by_cases other : operation.spawns = false
  · exact .inl (operation.apply_thins other table slot)
  · simp only [PublicOperation.spawns] at other
    split at other
    · exact spawnInternal_turnover _ _ .inherit table slot
    · exact spawnPipeline_turnover _ _ _ table slot
    · exact absurd rfl other

/-- What became of a slot since some table: whether its occupant was taken away, and how often
the slot was filled again. -/
inductive Since (slot : Nat) (born : Table) : Table → Bool → Nat → Prop
  | start : Since slot born born false 0
  | step {table : Table} {reaped : Bool} {refills : Nat} (sofar : Since slot born table reaped refills)
      (operation : PublicOperation) :
      Since slot born (operation.apply table)
        (reaped || (table.processes slot).used && !((operation.apply table).processes slot).used)
        (refills + (!(table.processes slot).used &&
          ((operation.apply table).processes slot).used).toNat)

/-- The generations of a slot come round after `2 ^ 32 - 1` steps and not before. -/
theorem iterate_nextGeneration {generation : Nat} (positive : 0 < generation)
    (small : generation < 2 ^ 32) (count : Nat) :
    nextGeneration^[count] generation = (generation - 1 + count) % (2 ^ 32 - 1) + 1 := by
  induction count with
  | zero =>
    rw [Function.iterate_zero, id, add_zero, Nat.mod_eq_of_lt (by omega)]
    omega
  | succ count hypothesis =>
    rw [Function.iterate_succ_apply', hypothesis]
    unfold nextGeneration nextNonzero wrapIncrement
    split <;> omega

/-- While the slot kept its occupant the entry still tells who that is; afterwards the
generation counts the refills. -/
structure Remembers (slot : Nat) (born table : Table) (reaped : Bool) (refills : Nat) : Prop where
  generation : (table.processes slot).generation =
    nextGeneration^[refills] (born.processes slot).generation
  kept : reaped = false → refills = 0 ∧ (table.processes slot).used = true ∧
    (table.processes slot).handle = (born.processes slot).handle ∧
    (table.processes slot).pid = (born.processes slot).pid
  gone : reaped = true → refills = 0 → (table.processes slot).used = false

variable {born : Table} {reaped : Bool} {refills : Nat}

theorem Since.remembers (since : Since slot born table reaped refills)
    (used : (born.processes slot).used = true) : Remembers slot born table reaped refills := by
  induction since with
  | start => exact ⟨rfl, fun _ => ⟨rfl, used, rfl, rfl⟩, nofun⟩
  | @step table reaped refills _ operation hypothesis =>
    obtain ⟨generation, kept, gone⟩ := hypothesis
    rcases operation.apply_turnover table slot with same | ⟨wasFree, nowUsed, next⟩
    · have unfilled : (!(table.processes slot).used &&
          ((operation.apply table).processes slot).used) = false := by
        by_contra filled
        simp only [Bool.and_eq_true, Bool.not_eq_true', Bool.not_eq_false] at filled
        cases (same.occupant filled.2).1.symm.trans filled.1
      rw [unfilled, Bool.toNat_false, add_zero]
      refine ⟨same.generation.trans generation, fun stays => ?_, fun left unfilledYet => ?_⟩
      · simp only [Bool.or_eq_false_iff, Bool.and_eq_false_iff, Bool.not_eq_false'] at stays
        obtain ⟨zero, wasUsed, handle, pid⟩ := kept stays.1
        have stillUsed := stays.2.resolve_left (by rw [wasUsed]; decide)
        obtain ⟨-, sameHandle, samePid⟩ := same.occupant stillUsed
        exact ⟨zero, stillUsed, sameHandle.trans handle, samePid.trans pid⟩
      · simp only [Bool.or_eq_true, Bool.and_eq_true, Bool.not_eq_true'] at left
        rcases left with earlier | ⟨-, now⟩
        · by_contra stillUsed
          have wasUsed := (same.occupant (by simpa using stillUsed)).1
          cases wasUsed.symm.trans (gone earlier unfilledYet)
        · exact now
    · have wasReaped : reaped = true := by
        by_contra stays
        cases (kept (by simpa using stays)).2.1.symm.trans wasFree
      have filled : (!(table.processes slot).used &&
          ((operation.apply table).processes slot).used) = true := by rw [wasFree, nowUsed]; rfl
      rw [filled, wasReaped]
      refine ⟨?_, nofun, fun _ none_yet => absurd none_yet (Nat.succ_ne_zero _)⟩
      rw [next, generation]
      exact (Function.iterate_succ_apply' _ _ _).symm

/-! ### Runs -/

variable (tick : Nat)

theorem initialized_counters : (Table.initialized tick).initHandle = makeHandle 0 1 ∧
    (Table.initialized tick).nextTerminalSequence = 1 := ⟨rfl, rfl⟩

theorem initialized_treeSound : TreeSound (Table.initialized tick) := by
  have entry (slot : Nat) (other : slot ≠ 0) : (Table.initialized tick).processes slot = {} := by
    rw [initialized_processes, update_of_ne other]
  have root : (Table.initialized tick).processes 0 = initProcess tick := by
    rw [initialized_processes, update_self]
  have alone (slot : Nat) (used : ((Table.initialized tick).processes slot).used = true) : slot = 0 := by
    by_contra other
    rw [entry slot other] at used
    cases used
  refine ⟨(initialized_counters tick).1, ?_, fun slot _ used => ?_, fun slot _ used other => ?_,
    fun slot below => ?_, fun _ => 0, rfl, fun slot _ used other => ?_⟩
  · exact ⟨rfl, rfl, rfl⟩
  · obtain rfl := alone slot used
    exact ⟨rfl, Nat.one_pos, show 1 < 2 ^ 32 by decide⟩
  · exact absurd (alone slot used) other
  · have childless : (Table.initialized tick).children slot = 0 := by
      refine countIndex_eq_zero.mpr fun child _ => ?_
      by_contra counted
      simp only [Bool.and_eq_true, beq_iff_eq, Bool.not_eq_false] at counted
      obtain rfl := alone child counted.1
      exact ne_invalidSlot below counted.2.symm
    rw [childless]
    by_cases first : slot = 0
    · rw [first, root]
      rfl
    · rw [entry slot first]
  · exact absurd (alone slot used) other

/-- The tables of the runs whose steps are all orderly. -/
inductive OrderlyRun : Table → Prop where
  | initialized (tick : Nat) : OrderlyRun (Table.initialized tick)
  | step {table : Table} (operation : PublicOperation) :
      OrderlyRun table → operation.Orderly table → OrderlyRun (operation.apply table)

theorem OrderlyRun.treeSound (run : OrderlyRun table) : TreeSound table := by
  induction run with
  | initialized tick => exact initialized_treeSound tick
  | step operation _ orderly hypothesis =>
    exact operation.apply_tree orderly hypothesis

/-- What the links and the counters of the processes say is so. -/
structure WellFormedTree (table : Table) : Prop where
  parents : ∀ slot < maximumProcesses, (table.processes slot).used = true →
    (table.processes slot).handle ≠ table.initHandle →
      (table.processes slot).parentSlot < maximumProcesses ∧
        (table.processes (table.processes slot).parentSlot).used = true ∧
        (table.processes (table.processes slot).parentSlot).pid = (table.processes slot).ppid ∧
        (table.processes (table.processes slot).parentSlot).terminal = false
  counted : ∀ slot < maximumProcesses, (table.processes slot).used = true →
    (table.processes slot).childCount = table.children slot ∧ (table.processes slot).childCount ≤ 64

theorem TreeSound.wellFormed (sound : TreeSound table) : WellFormedTree table := by
  refine ⟨fun slot below used other => ?_, fun slot below _ => ?_⟩
  · have nonroot : slot ≠ 0 := by
      rintro rfl
      rw [(sound.handles 0 below used).1, sound.root.2.1, sound.init] at other
      exact other rfl
    have links := sound.parents slot below used nonroot
    exact ⟨links.below, links.used, links.named, links.alive⟩
  · rw [sound.counted slot below]
    exact ⟨rfl, countIndex_le _ _⟩

/-- A handle names its process until the process is reaped, and then nobody as long as the
generations of the slot have not come round. -/
theorem Since.resolves {later : Table} {child : Process} (found : born.get handle = .ok child)
    (positive : 0 < handle / 2 ^ 32) (small : handle / 2 ^ 32 < 2 ^ 32)
    (since : Since (handle % 2 ^ 32) born later reaped refills) :
    (reaped = false → ∃ process, later.get handle = .ok process ∧ process.pid = child.pid) ∧
      (reaped = true → refills < 2 ^ 32 - 1 → later.get handle = .error .invalidHandle) := by
  obtain ⟨slot, resolved, rfl⟩ : ∃ slot, born.resolve handle = .ok slot ∧
      born.processes slot = child := by
    unfold Table.get at found
    split at found
    · rename_i slot resolved
      exact ⟨slot, resolved, Except.ok.inj found⟩
    · cases found
  obtain ⟨below, used, named, packed⟩ := resolve_ok resolved
  obtain ⟨index, generation⟩ := makeHandle_slot below (born.processes slot).generation
  rw [← packed] at index generation
  rw [index] at since
  have remembers := since.remembers used
  refine ⟨fun stays => ?_, fun left few => ?_⟩
  · obtain ⟨zero, stillUsed, sameHandle, samePid⟩ := remembers.kept stays
    have sameGeneration := remembers.generation
    rw [zero, Function.iterate_zero, id] at sameGeneration
    refine ⟨later.processes slot, ?_, samePid⟩
    have resolves : later.resolve handle = .ok slot := by
      simp only [Table.resolve]
      rw [index, if_neg (by omega), if_neg]
      rintro (free | other | stranger)
      · cases stillUsed.symm.trans free
      · exact other (sameGeneration.trans generation.symm)
      · exact stranger (sameHandle.trans named)
    rw [Table.get, resolves]
  · have missing : later.resolve handle = .error .invalidHandle := by
      simp only [Table.resolve]
      rw [index, if_neg (by omega), if_pos]
      by_cases fresh : refills = 0
      · exact .inl (remembers.gone left fresh)
      · refine .inr (.inl ?_)
        rw [remembers.generation, iterate_nextGeneration (generation ▸ positive)
          (generation ▸ small), ← generation]
        omega
    rw [Table.get, missing]

/-- The handle that a spawn returns has a nonzero generation and names a process. -/
def Names (result : Except Error Nat) (born : Table) : Prop :=
  ∀ handle, result = .ok handle →
    0 < handle / 2 ^ 32 ∧ handle / 2 ^ 32 < 2 ^ 32 ∧ ∃ child, born.get handle = .ok child

theorem install_get (process : Process) (below : slot < maximumProcesses)
    (used : process.used = true) (handle : process.handle = makeHandle slot process.generation) :
    ∃ child, (table.install slot parentSlot process).get process.handle = .ok child := by
  have entry : ((table.install slot parentSlot process).processes slot).used = process.used ∧
      ((table.install slot parentSlot process).processes slot).generation = process.generation ∧
      ((table.install slot parentSlot process).processes slot).handle = process.handle := by
    unfold Table.install
    split
    · rw [modify_self]
      exact ⟨rfl, rfl, rfl⟩
    · rw [modify_apply, modify_self]
      split <;> exact ⟨rfl, rfl, rfl⟩
  obtain ⟨index, generation⟩ := makeHandle_slot below process.generation
  rw [← handle] at index generation
  have resolves : (table.install slot parentSlot process).resolve process.handle = .ok slot := by
    simp only [Table.resolve]
    rw [index, if_neg (by omega), if_neg]
    rintro (free | other | stranger)
    · rw [entry.1, used] at free
      cases free
    · exact other (entry.2.1.trans generation.symm)
    · exact stranger entry.2.2
  exact ⟨_, by rw [Table.get, resolves]⟩

theorem SpawnOutcome.names
    (outcome : SpawnOutcome table parent request group result after) : Names result after := by
  intro handle isHandle
  cases outcome with
  | refused failure reuses nextPid => cases isHandle
  | @accepted reuses nextPid parentSlot free processGroup _ _ below _ =>
    cases isHandle
    obtain ⟨-, generation⟩ :=
      makeHandle_slot below (nextGeneration (table.processes free).generation)
    have positive := nextNonzero_pos 32 (table.processes free).generation
    have small := nextNonzero_lt 32 (table.processes free).generation (by decide)
    refine ⟨?_, ?_, install_get _ below rfl rfl⟩
    · exact generation ▸ positive
    · exact generation ▸ small

theorem spawnInternal_names (parent : Option Nat) (request : SpawnRequest) (group : SpawnGroup)
    (table : Table) :
    Names (spawnInternal parent request group table).1 (spawnInternal parent request group table).2 :=
  (spawnInternal_outcome parent request group table).names

/-- The process that a call has just made is named by its handle until it is reaped, and then
nobody is. -/
def HandleLasts (made : Except Error Nat × Table) : Prop :=
  ∀ handle, made.1 = .ok handle → ∃ child, made.2.get handle = .ok child ∧
    ∀ later reaped refills, Since (handle % 2 ^ 32) made.2 later reaped refills →
      (reaped = false → ∃ process, later.get handle = .ok process ∧ process.pid = child.pid) ∧
        (reaped = true → refills < 2 ^ 32 - 1 → later.get handle = .error .invalidHandle)

theorem handleLasts_of_names {made : Except Error Nat × Table} (names : Names made.1 made.2) :
    HandleLasts made := by
  intro handle isHandle
  obtain ⟨positive, small, child, found⟩ := names handle isHandle
  exact ⟨child, found, fun later reaped refills since => since.resolves found positive small⟩

/-- In a run of orderly steps the links are those of a tree, and handles last. -/
theorem orderlyRun_wellFormedTree {table : Table} (run : OrderlyRun table) :
    WellFormedTree table ∧ (∀ parent request, HandleLasts (Table.spawn parent request table)) ∧
      ∀ parent request group, HandleLasts (Table.spawnPipeline parent request group table) := by
  refine ⟨run.treeSound.wellFormed, fun parent request =>
    handleLasts_of_names (spawnInternal_names parent request .inherit table),
    fun parent request group => ?_⟩
  refine handleLasts_of_names ?_
  simp only [Table.spawnPipeline, bind_failWhen]
  split
  · rintro _ ⟨⟩
  · exact spawnInternal_names (some parent) request group table

/-- `init` and a child of it. -/
def familyTable : Table :=
  PublicOperation.apply (Table.initialized 0) (.core (.spawn (some 0x100000000) { name := [113] }))

theorem familyTable_wellFormed : (familyTable.processes 1).used = true ∧ WellFormedTree familyTable := by
  have orderly : PublicOperation.Orderly (Table.initialized 0)
      (.core (.spawn (some 0x100000000) { name := [113] })) := by
    intro parentSlot resolved _
    have isInit : (Table.initialized 0).resolveParent (some 0x100000000) = .ok 0 := by decide +kernel
    obtain rfl := Except.ok.inj (isInit.symm.trans resolved)
    decide +kernel
  exact ⟨by decide +kernel, (orderlyRun_wellFormedTree (.step _ (.initialized 0) orderly)).1⟩

/-- A process ends, and then spawns a child. -/
def posthumousRun : List PublicOperation := [
  .core (.spawn (some 0x100000000) { name := [113] }),
  .core (.exit 0x100000001 0),
  .core (.spawn (some 0x100000001) { name := [99] })]

theorem posthumousRun_ended_parent :
    ¬ WellFormedTree (posthumousRun.foldl PublicOperation.apply (Table.initialized 0)) := by
  intro wellFormed
  have alive := (wellFormed.parents 2 (by decide) (by decide +kernel) (by decide +kernel)).2.2.2
  exact absurd alive (by decide +kernel)

end ZigOs.RuntimeProcess
