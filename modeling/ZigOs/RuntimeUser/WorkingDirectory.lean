/-
This file is about the working directory of a process. The process table stores
the node slot of the directory and nothing else, and every relative path starts
at whatever directory that slot holds when the path is looked up. The file
models the system calls that choose, inherit and use a working directory, and
follows them through runs in which a directory may be removed while processes
still stand in it. A relative path then fails, until `mkdir` or a mount puts a
new directory into the very slot.
-/

import ZigOs.RuntimeFd.System
import ZigOs.RuntimeProcess.Lineage
import ZigOs.RuntimeVfs.Turnover

namespace ZigOs.RuntimeUser

open Scan RuntimeProcess RuntimeVfs RuntimeFd Call Function Vfs Kernel

/-! ### System calls -/

/-- Whom the filesystem takes a process for. -/
def credentials (process : Process) : Ownership := { uid := process.uid, gid := process.gid }

def syscallChdir (handle : Nat) (path : Bytes) : KernelCall Unit := do
  let kernel ← state
  let process ← lift (kernel.processes.get handle)
  let node ← inVfs (resolveDirectoryAs process.cwdNode path (credentials process))
  inProcesses (Table.setWorkingDirectory handle node)

def syscallMkdir (handle : Nat) (path : Bytes) (mode : BitVec 16) (tick : Nat) :
    KernelCall Unit := do
  let kernel ← state
  let process ← lift (kernel.processes.get handle)
  failWhen (validStoredMode mode = false) .invalidPath
  let _ ← inVfs (mkdirOwned process.cwdNode path
    (applyCreationUmask mode (BitVec.ofNat 16 process.umask)) (credentials process) tick)
  return ()

inductive PathMutation where
  | unlink | rmdir
  deriving DecidableEq, Repr

def syscallSinglePathMutation (handle : Nat) (path : Bytes) (operation : PathMutation)
    (tick : Nat) : KernelCall Unit := do
  let kernel ← state
  let process ← lift (kernel.processes.get handle)
  inVfs (match operation with
    | .unlink => unlinkAs process.cwdNode path (credentials process) tick
    | .rmdir => rmdirAs process.cwdNode path (credentials process) tick)

def syscallUnlink (handle : Nat) (path : Bytes) (tick : Nat) : KernelCall Unit :=
  syscallSinglePathMutation handle path .unlink tick

def syscallRmdir (handle : Nat) (path : Bytes) (tick : Nat) : KernelCall Unit :=
  syscallSinglePathMutation handle path .rmdir tick

def syscallRename (handle : Nat) (oldPath newPath : Bytes) (tick : Nat) : KernelCall Unit := do
  let kernel ← state
  let process ← lift (kernel.processes.get handle)
  inVfs (renameAs process.cwdNode oldPath newPath (credentials process) tick)

/-- Mounting is left to the superuser and makes empty `tmpfs` mounts only. -/
def syscallMount (handle : Nat) (path : Bytes) (readonly : Bool) (source : Bytes) :
    KernelCall Unit := do
  let kernel ← state
  let process ← lift (kernel.processes.get handle)
  failWhen (process.uid ≠ 0) .permissionDenied
  let _ ← inVfs (mountEmpty process.cwdNode path .tmpfs readonly source)
  return ()

/-- The filesystem's part of `openFile`, which creates a file when it is asked to. The owner is
the open description the descriptor system has chosen. -/
def openForProcess (handle owner : Nat) (path : Bytes) (flags : OpenFlags) (mode : BitVec 16)
    (tick : Nat) : KernelCall Nat := do
  let kernel ← state
  let process ← lift (kernel.processes.get handle)
  failWhen (flags.create ∧ validStoredMode mode = false) .invalidPath
  inVfs (openOwned owner process.cwdNode path flags
    (applyCreationUmask mode (BitVec.ofNat 16 process.umask)) (credentials process) tick)

/-- The process table's part of `spawnWithEnvironmentGroup`: the child stands where its parent
stands and acts with the same credentials. -/
def spawnChild (handle : Nat) (request : Table.SpawnRequest) (group : SpawnGroup) :
    KernelCall Nat := do
  let kernel ← state
  let parent ← lift (kernel.processes.get handle)
  let request : Table.SpawnRequest :=
    { request with
      kind := .userspace
      cwdNode := parent.cwdNode
      uid := parent.uid
      gid := parent.gid }
  inProcesses (match group with
    | .inherit => Table.spawn (some handle) request
    | group => Table.spawnPipeline handle request group)

/-! ### Runs -/

/-- What can happen next. -/
inductive Action where
  | chdir (handle : Nat) (path : Bytes)
  | spawn (handle : Nat) (request : Table.SpawnRequest) (group : SpawnGroup)
  | rmdir (handle : Nat) (path : Bytes) (tick : Nat)
  | unlink (handle : Nat) (path : Bytes) (tick : Nat)
  | rename (handle : Nat) (oldPath newPath : Bytes) (tick : Nat)
  | mkdir (handle : Nat) (path : Bytes) (mode : BitVec 16) (tick : Nat)
  | create (handle owner : Nat) (path : Bytes) (flags : OpenFlags) (mode : BitVec 16) (tick : Nat)
  | mount (handle : Nat) (path : Bytes) (readonly : Bool) (source : Bytes)
  -- Anything that leaves working directories and directories in their slots alone.
  | elsewhere (after : Kernel)

/-- The state an action leaves behind, whether it succeeds or fails. -/
def Action.apply (kernel : Kernel) : Action → Kernel
  | .chdir handle path => (syscallChdir handle path kernel).2
  | .spawn handle request group => (spawnChild handle request group kernel).2
  | .rmdir handle path tick => (syscallRmdir handle path tick kernel).2
  | .unlink handle path tick => (syscallUnlink handle path tick kernel).2
  | .rename handle oldPath newPath tick => (syscallRename handle oldPath newPath tick kernel).2
  | .mkdir handle path mode tick => (syscallMkdir handle path mode tick kernel).2
  | .create handle owner path flags mode tick =>
    (openForProcess handle owner path flags mode tick kernel).2
  | .mount handle path readonly source => (syscallMount handle path readonly source kernel).2
  | .elsewhere after => after

/-- Processes run and end and files change, but nobody moves and no directory comes about. -/
structure Elsewhere (before after : Kernel) : Prop where
  processes : ∀ slot, (after.processes.processes slot).used = true →
    (before.processes.processes slot).used = true ∧
      (after.processes.processes slot).cwdNode = (before.processes.processes slot).cwdNode
  files : Vfs.Grows (fun _ => False) before.vfs after.vfs

def Action.Possible (kernel : Kernel) : Action → Prop
  | .elsewhere after => Elsewhere kernel after
  | _ => True

/-- The state together with what nobody in it remembers: how many nodes each slot has held so
far, and which of them the slot of its working directory held when a process chose it. -/
structure Watched where
  kernel : Kernel
  births : Nat → Nat := fun _ => 0
  homes : Nat → Nat := fun _ => 0

/-- Count the slots that hold another node than before. -/
def countBirths (before after : Vfs) (births : Nat → Nat) (node : Nat) : Nat :=
  if (after.nodes node).used ∧ ((before.nodes node).used = false ∨
      (before.nodes node).generation ≠ (after.nodes node).generation)
  then births node + 1 else births node

def slotOf (handle : Nat) : Nat := handle % 2 ^ 32

/-- A process that changes its directory has a new home, and a child has its parent's. -/
def Action.settle (kernel : Kernel) (births homes : Nat → Nat) : Action → Nat → Nat
  | .chdir handle path =>
    match syscallChdir handle path kernel with
    | (.ok _, after) => update homes (slotOf handle)
        (births (after.processes.processes (slotOf handle)).cwdNode)
    | (.error _, _) => homes
  | .spawn handle request group =>
    match (spawnChild handle request group kernel).1 with
    | .ok child => update homes (slotOf child) (homes (slotOf handle))
    | .error _ => homes
  | _ => homes

def Watched.next (watched : Watched) (action : Action) : Watched :=
  let after := action.apply watched.kernel
  let births := countBirths watched.kernel.vfs after.vfs watched.births
  { kernel := after
    births := births
    homes := action.settle watched.kernel births watched.homes }

/-- The runs whose actions are all permitted, from any state on. -/
inductive Run (permitted : Kernel → Action → Prop) : Watched → Prop where
  | start (kernel : Kernel) (sound : kernel.vfs.DirectoriesSound) : Run permitted { kernel }
  | step {watched : Watched} (run : Run permitted watched) (action : Action)
      (possible : action.Possible watched.kernel) (permits : permitted watched.kernel action) :
      Run permitted (watched.next action)

variable {watched : Watched}

theorem Run.mono {narrow wide : Kernel → Action → Prop} (run : Run narrow watched)
    (weaker : ∀ kernel action, narrow kernel action → wide kernel action) : Run wide watched := by
  induction run with
  | start kernel sound => exact .start kernel sound
  | step _ action possible permits wider => exact wider.step action possible (weaker _ _ permits)

/-- The working directory of a process is still the one it chose. -/
structure AtHome (watched : Watched) (slot : Nat) : Prop where
  directory : (watched.kernel.vfs.nodes
    (watched.kernel.processes.processes slot).cwdNode).kind = .directory
  birth : watched.births (watched.kernel.processes.processes slot).cwdNode = watched.homes slot

/-- Every relative path of every process fails or starts in the directory the process chose. -/
def NeverMoves (watched : Watched) : Prop :=
  ∀ slot < maximumProcesses, (watched.kernel.processes.processes slot).used = true →
    ∀ path : Bytes, path.head? ≠ some slash → ∀ followFinal credentials,
      (∃ failure, (resolveInternalAs (watched.kernel.processes.processes slot).cwdNode path
        followFinal credentials watched.kernel.vfs).1 = .error failure) ∨ AtHome watched slot

/-- No live process stands in the slot. -/
def Vacant (kernel : Kernel) (node : Nat) : Prop :=
  ∀ slot < maximumProcesses, (kernel.processes.processes slot).used = true →
    (kernel.processes.processes slot).cwdNode ≠ node

/-- A directory that is made does not go to a slot that is somebody's working directory. -/
def SparesHomes (kernel : Kernel) : Action → Prop
  | .mkdir handle path mode tick => (syscallMkdir handle path mode tick kernel).1.isOk = true →
      ∀ node, kernel.vfs.freeNode = .ok node → Vacant kernel node
  | .mount handle path readonly source =>
    (syscallMount handle path readonly source kernel).1.isOk = true →
      ∀ node, kernel.vfs.freeNode = .ok node → Vacant kernel node
  | _ => True

/-! ### What a system call does to directories -/

/-- The process table is untouched, and directories come about in the given slots only. -/
structure FilesOnly (created : Nat → Prop) (before after : Kernel) : Prop where
  processes : after.processes = before.processes
  files : Vfs.Grows created before.vfs after.vfs

variable (handle : Nat) (path : Bytes)

section FilesOnly

variable {created : Nat → Prop}

instance : Std.Refl (FilesOnly created) where
  refl _ := ⟨rfl, refl _⟩

instance : IsTrans Kernel (FilesOnly created) where
  trans _ _ _ start finish :=
    ⟨finish.processes.trans start.processes, IsTrans.trans _ _ _ start.files finish.files⟩

theorem inVfs_filesOnly {Value : Type} {call : VfsCall Value}
    (grows : Keeps (Vfs.Grows created) call) :
    Keeps (FilesOnly created) (inVfs call) :=
  keeps_within grows fun _ _ files => ⟨rfl, files⟩

theorem syscallSinglePathMutation_filesOnly (operation : PathMutation) (tick : Nat) :
    Keeps (FilesOnly created) (syscallSinglePathMutation handle path operation tick) := by
  refine keeps_state_bind fun _ => keeps_lift_bind fun process =>
    inVfs_filesOnly ?_
  cases operation with
  | unlink => exact unlinkAs_grows _ _ _ _
  | rmdir => exact rmdirAs_grows _ _ _ _

theorem syscallRename_filesOnly (oldPath newPath : Bytes) (tick : Nat) :
    Keeps (FilesOnly created) (syscallRename handle oldPath newPath tick) :=
  keeps_state_bind fun _ => keeps_lift_bind fun _ =>
    inVfs_filesOnly (renameAs_grows _ _ _ _ _)

theorem openForProcess_filesOnly (owner : Nat) (path : Bytes) (flags : OpenFlags) (mode : BitVec 16)
    (tick : Nat) : Keeps (FilesOnly created) (openForProcess handle owner path flags mode tick) :=
  keeps_state_bind fun _ => keeps_lift_bind fun _ =>
    keeps_failWhen_bind fun _ =>
      inVfs_filesOnly (openOwned_grows _ _ _ _ _ _ _)

end FilesOnly

/-- A call that makes a directory in the first free slot when it succeeds. -/
def MakesDirectory (before : Kernel) (call : KernelCall Unit) : Prop :=
  Yields (fun result after => FilesOnly (fun slot =>
    result.isOk = true ∧ before.vfs.freeNode = .ok slot) before after) before call

variable {kernel : Kernel}

/-- The call is made for its effect; its result is dropped. -/
theorem makesDirectory_of_vfs {call : VfsCall Nat}
    (grows : Yields (fun result after => Vfs.Grows (fun slot =>
      result.isOk = true ∧ kernel.vfs.freeNode = .ok slot) kernel.vfs after) kernel.vfs call) :
    MakesDirectory kernel (do
      let _ ← inVfs call
      return ()) := by
  refine yields_bind (fun failure after outcome => ?_) fun value after outcome => yields_pure ?_
  all_goals
    obtain ⟨result, rfl⟩ := Prod.mk.inj outcome
    have files := grows
    unfold Yields at files
    rw [result] at files
    exact ⟨rfl, files⟩

theorem syscallMkdir_makesDirectory (mode : BitVec 16) (tick : Nat)
    (kernel : Kernel) : MakesDirectory kernel (syscallMkdir handle path mode tick) :=
  yields_state (yields_lift (fun _ _ => refl kernel) fun _ _ =>
    yields_failWhen (fun _ => refl kernel) fun _ =>
      makesDirectory_of_vfs (mkdirOwned_grows _ _ _ _ _ _))

theorem syscallMount_makesDirectory (readonly : Bool) (source : Bytes)
    (kernel : Kernel) : MakesDirectory kernel (syscallMount handle path readonly source) :=
  yields_state (yields_lift (fun _ _ => refl kernel) fun _ _ =>
    yields_failWhen (fun _ => refl kernel) fun _ =>
      makesDirectory_of_vfs (mountEmpty_grows _ _ _ _ _ _))

/-! ### Homes -/

/-- What holds between two calls: a live process whose slot still holds a directory is at home. -/
structure Settled (watched : Watched) : Prop where
  sound : watched.kernel.vfs.DirectoriesSound
  home : ∀ slot < maximumProcesses, (watched.kernel.processes.processes slot).used = true →
    (watched.kernel.vfs.nodes (watched.kernel.processes.processes slot).cwdNode).kind = .directory →
      AtHome watched slot

/-- Where the directory and the home of a process come from: from an earlier process, itself or
its parent, or from the slot the process has just chosen. -/
inductive Origin (before after : Watched) (slot : Nat) : Prop where
  | inherited (source : Nat) (below : source < maximumProcesses)
      (used : (before.kernel.processes.processes source).used = true)
      (directory : (after.kernel.processes.processes slot).cwdNode =
        (before.kernel.processes.processes source).cwdNode)
      (home : after.homes slot = before.homes source)
  | chosen (home : after.homes slot =
      after.births (after.kernel.processes.processes slot).cwdNode)

theorem Settled.move {before after : Watched} {created : Nat → Prop} (settled : Settled before)
    (grows : Vfs.Grows created before.kernel.vfs after.kernel.vfs)
    (births : after.births = countBirths before.kernel.vfs after.kernel.vfs before.births)
    (vacant : ∀ node, created node → Vacant before.kernel node)
    (origins : ∀ slot < maximumProcesses, (after.kernel.processes.processes slot).used = true →
      Origin before after slot) : Settled after := by
  refine ⟨grows.sound settled.sound, fun slot below used directory => ⟨directory, ?_⟩⟩
  cases origins slot below used with
  | chosen home => exact home.symm
  | inherited source sourceBelow sourceUsed same home =>
    rw [same] at directory ⊢
    rcases grows.directory _ directory with fresh | ⟨stood, generation⟩
    · exact absurd rfl (vacant _ fresh source sourceBelow sourceUsed)
    · have counted : after.births (before.kernel.processes.processes source).cwdNode =
          before.births (before.kernel.processes.processes source).cwdNode := by
        rw [births, countBirths, if_neg]
        rintro ⟨-, unused | other⟩
        · rw [settled.sound.used _ stood] at unused
          cases unused
        · exact other generation.symm
      rw [counted, home]
      exact (settled.home source sourceBelow sourceUsed stood).birth

/-- An action that only changes files leaves every process where it was. -/
theorem FilesOnly.settled {created : Nat → Prop} {action : Action} (settled : Settled watched)
    (files : FilesOnly created watched.kernel (action.apply watched.kernel))
    (vacant : ∀ node, created node → Vacant watched.kernel node)
    (stays : ∀ births homes, action.settle watched.kernel births homes = homes) :
    Settled (watched.next action) := by
  refine settled.move files.files rfl vacant fun slot below used => ?_
  have same : (watched.next action).kernel.processes = watched.kernel.processes := files.processes
  rw [same] at used
  refine .inherited slot below used ?_ ?_
  · rw [same]
  · exact congrFun (stays _ _) slot

/-- What `chdir` does: nothing to directories, and one process moves or none. -/
inductive Moves (before : Kernel) (handle : Nat) : Except Error Unit → Kernel → Prop
  | refused (failure : Error) {after : Kernel} (files : before.vfs.SameOccupants after.vfs)
      (processes : after.processes = before.processes) : Moves before handle (.error failure) after
  | moved (node : Nat) {after : Kernel} (files : before.vfs.SameOccupants after.vfs)
      (processes : after.processes = before.processes.modify (slotOf handle) fun process =>
        { process with cwdNode := node }) : Moves before handle (.ok ()) after

variable {handle slot : Nat}

theorem resolve_slotOf {table : Table} (found : table.resolve handle = .ok slot) :
    slot = slotOf handle := by
  obtain ⟨below, -, -, made⟩ := resolve_ok found
  rw [made, slotOf, (makeHandle_slot below _).1]

theorem resolveDirectoryAs_sameTables (cwd : Nat) (path : Bytes) (owner : Ownership) :
    Keeps Vfs.SameTables (resolveDirectoryAs cwd path owner) :=
  keeps_bind (resolveAs_sameTables _ _ _) fun _ => keeps_state_bind fun _ =>
    keeps_failWhen_bind fun _ => keeps_lift_bind fun _ =>
      keeps_pure _

theorem syscallChdir_moves (handle : Nat) (path : Bytes) (kernel : Kernel) :
    Yields (Moves kernel handle) kernel (syscallChdir handle path) := by
  refine yields_state (yields_lift (fun failure _ => .refused failure (refl _) rfl)
    fun process known => ?_)
  have same := (resolveDirectoryAs_sameTables process.cwdNode path (credentials process)
    kernel.vfs).sameOccupants
  refine yields_bind (fun failure after outcome => ?_) fun node after outcome => ?_
  all_goals obtain ⟨-, rfl⟩ := Prod.mk.inj outcome
  · exact .refused failure same rfl
  · simp only [Yields, inProcesses, within_apply, Table.setWorkingDirectory,
      bind_state]
    cases found : kernel.processes.resolve handle with
    | error failure => exact .refused failure same rfl
    | ok slot =>
      obtain rfl := resolve_slotOf found
      exact .moved node same rfl

/-- What a spawn does: nothing to files, and a new process stands where its parent stands. -/
inductive Bears (before : Kernel) (handle : Nat) : Except Error Nat → Kernel → Prop
  | refused (failure : Error) {after : Kernel} (files : after.vfs = before.vfs)
      (processes : after.processes.processes = before.processes.processes) :
      Bears before handle (.error failure) after
  | born (child : Nat) {after : Kernel} (files : after.vfs = before.vfs)
      (parentBelow : slotOf handle < maximumProcesses)
      (parentUsed : (before.processes.processes (slotOf handle)).used = true)
      (here : (after.processes.processes (slotOf child)).cwdNode =
        (before.processes.processes (slotOf handle)).cwdNode)
      (others : ∀ other ≠ slotOf child,
        (after.processes.processes other).used = (before.processes.processes other).used ∧
          (after.processes.processes other).cwdNode = (before.processes.processes other).cwdNode) :
      Bears before handle (.ok child) after

variable (table : Table)

theorem install_here (slot parentSlot : Nat) (process : Process) :
    ((table.install slot parentSlot process).processes slot).cwdNode = process.cwdNode := by
  unfold Table.install
  dsimp only
  split
  · rw [modify_self]
  · rw [modify_apply, modify_self]
    split <;> rfl

variable {parentSlot : Nat}

theorem install_others {other : Nat} (process : Process) (different : other ≠ slot) :
    ((table.install slot parentSlot process).processes other).used = (table.processes other).used ∧
      ((table.install slot parentSlot process).processes other).cwdNode =
        (table.processes other).cwdNode := by
  unfold Table.install
  dsimp only
  split
  · rw [modify_other _ _ different]
    exact ⟨rfl, rfl⟩
  · rw [modify_apply, modify_other _ _ different]
    split <;> exact ⟨rfl, rfl⟩

theorem bears_of_outcome {request : Table.SpawnRequest} {group : SpawnGroup}
    {result : Except Error Nat} {after : Table}
    (parent : kernel.processes.resolve handle = .ok parentSlot)
    (stands : request.cwdNode = (kernel.processes.processes parentSlot).cwdNode)
    (outcome : SpawnOutcome kernel.processes (some handle) request group result after) :
    Bears kernel handle result { kernel with processes := after } := by
  obtain ⟨parentBelow, parentUsed, -⟩ := resolve_ok parent
  obtain rfl := resolve_slotOf parent
  cases outcome with
  | refused failure reuses nextPid => exact .refused failure rfl rfl
  | @accepted reuses nextPid _ slot processGroup resolved accepts below free =>
    have child : slotOf (kernel.processes.newProcess request slot (slotOf handle)
        kernel.processes.nextPid processGroup).handle = slot :=
      (makeHandle_slot below _).1
    cases (parent.symm.trans resolved)
    refine .born _ rfl parentBelow parentUsed ?_ ?_
    · rwa [child, install_here]
    · rw [child]
      exact fun other different => install_others _ _ different

theorem spawnChild_bears (handle : Nat) (request : Table.SpawnRequest) (group : SpawnGroup)
    (kernel : Kernel) : Yields (Bears kernel handle) kernel (spawnChild handle request group) := by
  refine yields_state (yields_lift (fun failure _ => .refused failure rfl rfl)
    fun parent known => ?_)
  unfold Table.get at known
  split at known
  · rename_i parentSlot found
    cases known
    cases group with
    | inherit =>
      exact bears_of_outcome found rfl (spawnInternal_outcome (some handle) _ .inherit kernel.processes)
    | newPipeline =>
      exact bears_of_outcome found rfl (spawnInternal_outcome (some handle) _ .newPipeline _)
    | joinPipeline leader =>
      exact bears_of_outcome found rfl (spawnInternal_outcome (some handle) _ (.joinPipeline leader) _)
  · cases known

/-! ### Steps and runs -/

/-- No action that spares the homes moves a process out of its own. -/
theorem Settled.next (settled : Settled watched) (action : Action)
    (possible : action.Possible watched.kernel) (spares : SparesHomes watched.kernel action) :
    Settled (watched.next action) := by
  have nowhere : ∀ node, False → Vacant watched.kernel node := fun _ impossible => impossible.elim
  cases action with
  | rmdir handle path tick =>
    exact FilesOnly.settled settled (syscallSinglePathMutation_filesOnly handle path .rmdir tick _)
      nowhere fun _ _ => rfl
  | unlink handle path tick =>
    exact FilesOnly.settled settled (syscallSinglePathMutation_filesOnly handle path .unlink tick _)
      nowhere fun _ _ => rfl
  | rename handle oldPath newPath tick =>
    exact FilesOnly.settled settled (syscallRename_filesOnly handle oldPath newPath tick _)
      nowhere fun _ _ => rfl
  | create handle owner path flags mode tick =>
    exact FilesOnly.settled settled (openForProcess_filesOnly handle owner path flags mode tick _)
      nowhere fun _ _ => rfl
  | mkdir handle path mode tick =>
    exact FilesOnly.settled settled (syscallMkdir_makesDirectory handle path mode tick _)
      (fun node made => spares made.1 node made.2) fun _ _ => rfl
  | mount handle path readonly source =>
    exact FilesOnly.settled settled (syscallMount_makesDirectory handle path readonly source _)
      (fun node made => spares made.1 node made.2) fun _ _ => rfl
  | elsewhere after =>
    refine settled.move possible.files rfl nowhere fun slot below used => ?_
    obtain ⟨stood, same⟩ := possible.processes slot used
    exact .inherited slot below stood same rfl
  | chdir handle path =>
    have moves := syscallChdir_moves handle path watched.kernel
    unfold Yields at moves
    rcases outcome : syscallChdir handle path watched.kernel with ⟨result, after⟩
    rw [outcome] at moves
    have kernel : (watched.next (.chdir handle path)).kernel = after := by
      simp only [Watched.next, Action.apply, outcome]
    cases moves with
    | refused failure files processes =>
      refine settled.move (kernel ▸ files.grows) rfl nowhere fun slot below used => ?_
      rw [kernel, processes] at used
      refine .inherited slot below used ?_ ?_
      · rw [kernel, processes]
      · simp only [Watched.next, Action.settle, outcome]
    | moved node files processes =>
      refine settled.move (kernel ▸ files.grows) rfl nowhere fun slot below used => ?_
      by_cases here : slot = slotOf handle
      · subst here
        refine .chosen ?_
        simp only [Watched.next, Action.settle, Action.apply, outcome, update_self]
      · rw [kernel, processes, modify_other _ _ here] at used
        refine .inherited slot below used ?_ ?_
        · rw [kernel, processes, modify_other _ _ here]
        · simp only [Watched.next, Action.settle, outcome, update_of_ne here]
  | spawn handle request group =>
    have bears := spawnChild_bears handle request group watched.kernel
    unfold Yields at bears
    rcases outcome : spawnChild handle request group watched.kernel with ⟨result, after⟩
    rw [outcome] at bears
    have kernel : (watched.next (.spawn handle request group)).kernel = after := by
      simp only [Watched.next, Action.apply, outcome]
    have grows : Vfs.Grows (fun _ => False) watched.kernel.vfs
        (watched.next (.spawn handle request group)).kernel.vfs := by
      rw [kernel]
      cases bears with
      | refused _ files _ => exact files ▸ refl _
      | born _ files _ _ _ _ => exact files ▸ refl _
    refine settled.move grows rfl nowhere fun slot below used => ?_
    cases bears with
    | refused failure files processes =>
      rw [kernel, processes] at used
      refine .inherited slot below used ?_ ?_
      · rw [kernel, processes]
      · simp only [Watched.next, Action.settle, outcome]
    | born child files parentBelow parentUsed stands others =>
      obtain rfl | here := eq_or_ne slot (slotOf child)
      · refine .inherited (slotOf handle) parentBelow parentUsed (kernel ▸ stands) ?_
        simp only [Watched.next, Action.settle, outcome, update_self]
      · obtain ⟨same, cwd⟩ := others slot here
        rw [kernel, same] at used
        refine .inherited slot below used (kernel ▸ cwd) ?_
        simp only [Watched.next, Action.settle, outcome, update_of_ne here]

theorem Run.settled (run : Run SparesHomes watched) : Settled watched := by
  induction run with
  | start kernel sound => exact ⟨sound, fun _ _ _ directory => ⟨directory, rfl⟩⟩
  | step _ action possible spares settled => exact settled.next action possible spares

variable {vfs : Vfs}

/-- A relative path that gets anywhere starts in a directory. -/
theorem validateDirectory_kind {node directory : Nat} (sound : vfs.DirectoriesSound)
    (found : vfs.validateDirectory node = .ok directory) : (vfs.nodes node).kind = .directory := by
  unfold validateDirectory at found
  split at found
  · cases found
  · split at found
    · cases found
    · rename_i visible
      unfold followMount at visible
      split at visible
      · rename_i index covering
        have covers := firstIndex_test covering
        simp only [Bool.and_eq_true, bne_iff_ne, beq_iff_eq] at covers
        obtain ⟨⟨used, notRoot⟩, rfl⟩ := covers
        exact sound.mountpoint index (firstIndex_lt covering) used notRoot
      · exact not_not.mp visible

theorem resolve_relative {cwd : Nat} {path : Bytes} {followFinal : Bool} {owner : Ownership}
    (relative : path.head? ≠ some slash) {failure : Error}
    (refuses : vfs.validateDirectory cwd = .error failure) :
    ∃ failure, (resolveInternalAs cwd path followFinal owner vfs).1 = .error failure := by
  unfold resolveInternalAs resolveWith
  rw [bind_apply]
  cases validatePathBounds path with
  | error failure => exact ⟨failure, rfl⟩
  | ok _ =>
    simp only [lift_apply, bind_state, refuses, if_neg relative]
    split
    · exact ⟨failure, rfl⟩
    · exact ⟨failure, rfl⟩

/-- As long as no new directory goes to a slot that is somebody's working directory, no working
directory moves: every relative path fails or starts in the directory the process chose. -/
theorem sparingRun_neverMoves {watched : Watched} (run : Run SparesHomes watched) :
    NeverMoves watched := by
  intro slot below used path relative followFinal owner
  have settled := run.settled
  rcases found : watched.kernel.vfs.validateDirectory
      (watched.kernel.processes.processes slot).cwdNode with failure | directory
  · exact .inl (resolve_relative relative found)
  · exact .inr (settled.home slot below used (validateDirectory_kind settled.sound found))

/-! ### The run that moves a working directory -/

def initHandle : Nat := RuntimeProcess.makeHandle 0 1

def childHandle : Nat := RuntimeProcess.makeHandle 1 1

def bootKernel : Kernel := { processes := Table.initialized 0 }

/-- The state after the given actions, from boot on. -/
def booted (actions : List Action) : Watched := actions.foldl Watched.next { kernel := bootKernel }

/-- A child of `init` goes to `/d`, and `init` removes that directory. -/
def removal : List Action := [
  .spawn initHandle { name := [115, 104] } .inherit,
  .mkdir initHandle [47, 100] 0o755 0,
  .chdir childHandle [47, 100],
  .rmdir initHandle [47, 100] 0]

/-- Then `init` makes `/e`. -/
def recycling : List Action := removal ++ [.mkdir initHandle [47, 101] 0o755 0]

theorem bootKernel_sound : bootKernel.vfs.DirectoriesSound := initialized_directoriesSound

theorem removal_run : Run SparesHomes (booted removal) := by
  have spares : SparesHomes (booted (removal.take 1)).kernel (removal.get ⟨1, by decide⟩) := by
    have vacant : ∀ slot < maximumProcesses,
        ((booted (removal.take 1)).kernel.processes.processes slot).used = true →
          ((booted (removal.take 1)).kernel.processes.processes slot).cwdNode ≠ 1 := by
      decide +kernel
    have first : (booted (removal.take 1)).kernel.vfs.freeNode = .ok 1 := by decide +kernel
    intro _ node free
    cases (first.symm.trans free)
    exact vacant
  have born : Run SparesHomes (booted (removal.take 1)) :=
    Run.step (.start bootKernel bootKernel_sound) (.spawn initHandle { name := [115, 104] } .inherit)
      trivial trivial
  have made := born.step (.mkdir initHandle [47, 100] 0o755 0) trivial spares
  have moved := made.step (.chdir childHandle [47, 100]) trivial trivial
  exact moved.step (.rmdir initHandle [47, 100] 0) trivial trivial

/-- The slot of the removed directory is free, and the child stays out of every directory. -/
theorem removedDirectory_neverMoves : ((booted removal).kernel.vfs.nodes 1).used = false ∧
    ((booted removal).kernel.processes.processes 1).cwdNode = 1 ∧ NeverMoves (booted removal) :=
  ⟨by decide +kernel, by decide +kernel, sparingRun_neverMoves removal_run⟩

/-- The new directory takes the slot, and the child stands in it: its `.` is `/e`. -/
theorem recycledSlot_moves : Run (fun _ _ => True) (booted recycling) ∧
    (resolveAs ((booted recycling).kernel.processes.processes 1).cwdNode dot {}
      (booted recycling).kernel.vfs).1 = .ok 1 ∧
    ((booted recycling).kernel.vfs.dentries 0).name = [101] ∧
    ((booted recycling).kernel.vfs.dentries 0).node = 1 ∧ ¬ NeverMoves (booted recycling) := by
  have resolves : (resolveAs ((booted recycling).kernel.processes.processes 1).cwdNode dot {}
      (booted recycling).kernel.vfs).1 = .ok 1 := by decide +kernel
  refine ⟨?_, resolves, by decide +kernel, by decide +kernel, fun never => ?_⟩
  · exact (removal_run.mono fun _ _ _ => trivial).step (.mkdir initHandle [47, 101] 0o755 0) trivial
      trivial
  · have used : ((booted recycling).kernel.processes.processes 1).used = true := by decide +kernel
    rcases never 1 (by decide) used dot (by decide) true {} with ⟨failure, refused⟩ | home
    · have impossible := resolves.symm.trans refused
      cases impossible
    · have elsewhere : (booted recycling).births
          ((booted recycling).kernel.processes.processes 1).cwdNode ≠ (booted recycling).homes 1 := by
        decide +kernel
      exact elsewhere home.birth

end ZigOs.RuntimeUser
