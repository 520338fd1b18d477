/-
This file defines the runs of the descriptor system: any process performs any
call at any time, and between the calls the filesystem and the process table
move on by themselves, as long as they leave open what descriptions hold and
put nobody to sleep on a descriptor. What every move keeps holds in every
reachable state. The first instance is that the books balance.
-/

import ZigOs.RuntimeProcess.Wait
import ZigOs.RuntimeFd.Locking

namespace ZigOs.RuntimeFd

open Scan RuntimeProcess RuntimeVfs Kernel Operation

/-- The calls of the descriptor system that change it. -/
inductive Operation where
  | bindProcess (handle : Nat) (installStandardStreams : Bool)
  | cloneProcess (sourceHandle targetHandle : Nat)
  | releaseProcess (handle : Nat)
  | sweepStaleNamespaces
  | openFileAt (handle directory : Nat) (path : Bytes) (flags : OpenFlags) (mode : BitVec 16)
      (tick : Nat)
  | openFile (handle : Nat) (path : Bytes) (flags : OpenFlags) (mode : BitVec 16) (tick : Nat)
  | createDirectoryWatch (handle directoryFd : Nat)
  | createExternalDescriptor (handle : Nat) (kind : DescriptionKind) (resource : ExternalResource)
      (readable writable closeOnExec : Bool)
  | createPipe (handle : Nat)
  | duplicate (handle sourceFd : Nat)
  | duplicateTo (handle sourceFd targetFd : Nat)
  | configurePipelineChild (handle : Nat) (stdinSource stdoutSource : Option Nat)
  | setCloseOnExec (handle fd : Nat) (enabled : Bool)
  | closeOnExec (handle : Nat)
  | close (handle fd : Nat)
  | closeAll (handle : Nat)
  | read (handle fd length : Nat) (tick : Option Nat)
  | write (handle fd : Nat) (bytes : Bytes) (tick : Nat)
  | flock (handle fd : Nat) (requested : AdvisoryLock) (nonblocking : Bool)
  | lockRange (handle fd start length : Nat) (requested : AdvisoryLock) (nonblocking : Bool)

/-- The state an operation leaves behind, whether it succeeds or fails. -/
def Operation.next (operation : Operation) (kernel : Kernel) : Kernel :=
  match operation with
  | .bindProcess handle streams => (Kernel.bindProcess handle streams kernel).2
  | .cloneProcess source target => (Kernel.cloneProcess source target kernel).2
  | .releaseProcess handle => (Kernel.releaseProcess handle kernel).2
  | .sweepStaleNamespaces => (Kernel.sweepStaleNamespaces kernel).2
  | .openFileAt handle directory path flags mode tick =>
    (Kernel.openFileAt handle directory path flags mode tick kernel).2
  | .openFile handle path flags mode tick => (Kernel.openFile handle path flags mode tick kernel).2
  | .createDirectoryWatch handle directoryFd =>
    (Kernel.createDirectoryWatch handle directoryFd kernel).2
  | .createExternalDescriptor handle kind resource readable writable marked =>
    (Kernel.createExternalDescriptor handle kind resource readable writable marked kernel).2
  | .createPipe handle => (Kernel.createPipe handle kernel).2
  | .duplicate handle sourceFd => (Kernel.duplicate handle sourceFd kernel).2
  | .duplicateTo handle sourceFd targetFd => (Kernel.duplicateTo handle sourceFd targetFd kernel).2
  | .configurePipelineChild handle stdinSource stdoutSource =>
    (Kernel.configurePipelineChild handle stdinSource stdoutSource kernel).2
  | .setCloseOnExec handle fd enabled => (Kernel.setCloseOnExec handle fd enabled kernel).2
  | .closeOnExec handle => (Kernel.closeOnExec handle kernel).2
  | .close handle fd => (Kernel.close handle fd kernel).2
  | .closeAll handle => (Kernel.closeAll handle kernel).2
  | .read handle fd length tick => (readInternal handle fd length tick kernel).2
  | .write handle fd bytes tick => (Kernel.write handle fd bytes tick kernel).2
  | .flock handle fd requested nonblocking =>
    (Kernel.flock handle fd requested nonblocking kernel).2
  | .lockRange handle fd start length requested nonblocking =>
    (Kernel.lockRange handle fd start length requested nonblocking kernel).2

/-- The operation asks for a lock. -/
def Operation.locks : Operation → Bool
  | .flock _ _ _ _ | .lockRange _ _ _ _ _ _ => true
  | _ => false

/-- The operation makes a pipe or passes bytes. -/
def Operation.transfers : Operation → Bool
  | .createPipe _ | .read _ _ _ _ | .write _ _ _ _ => true
  | _ => false

/-- Every operation is a sequence of moves. Only requests for locks change locks, and only reads,
writes and new pipes touch the bytes of pipes. -/
theorem Operation.runs (operation : Operation) (kernel : Kernel) :
    Runs (operation.locks = true) (operation.transfers = true) kernel (operation.next kernel) := by
  cases operation with
  | bindProcess => exact bindProcess_runs _ _ kernel
  | cloneProcess => exact cloneProcess_runs _ _ kernel
  | releaseProcess => exact releaseProcess_runs _ kernel
  | sweepStaleNamespaces => exact sweepStaleNamespaces_runs kernel
  | openFileAt => exact openFileAt_runs _ _ _ _ _ _ kernel
  | openFile => exact openFile_runs _ _ _ _ _ kernel
  | createDirectoryWatch => exact createDirectoryWatch_runs _ _ kernel
  | createExternalDescriptor => exact createExternalDescriptor_runs _ _ _ _ _ _ kernel
  | createPipe handle =>
    have runs : Runs False True kernel _ := createPipe_runs handle kernel
    simpa [locks, Operation.transfers, next] using runs
  | duplicate => exact duplicate_runs _ _ kernel
  | duplicateTo => exact duplicateTo_runs _ _ _ kernel
  | configurePipelineChild => exact configurePipelineChild_runs _ _ _ kernel
  | setCloseOnExec => exact setCloseOnExec_runs _ _ _ kernel
  | closeOnExec => exact closeOnExec_runs _ kernel
  | close => exact close_runs _ _ kernel
  | closeAll => exact closeAll_runs _ kernel
  | read handle fd length tick =>
    have runs : Runs False True kernel _ := readInternal_runs handle fd length tick kernel
    simpa [locks, Operation.transfers, next] using runs
  | write handle fd bytes tick =>
    have runs : Runs False True kernel _ := write_runs handle fd bytes tick kernel
    simpa [locks, Operation.transfers, next] using runs
  | flock handle fd requested nonblocking =>
    have runs : Runs True False kernel _ := flock_runs handle fd requested nonblocking kernel
    simpa [locks, Operation.transfers, next] using runs
  | lockRange handle fd start length requested nonblocking =>
    have runs : Runs True False kernel _ :=
      lockRange_runs handle fd start length requested nonblocking kernel
    simpa [locks, Operation.transfers, next] using runs

/-- One step of a run: a call, or the other subsystems on their own. -/
inductive Step : Kernel → Kernel → Prop
  | operation (kernel : Kernel) (operation : Operation) : Step kernel (operation.next kernel)
  | outside (kernel : Kernel) {vfs : Vfs} {processes : Table} (terminal : Option RuntimeTty.Tty)
      (close : Option (Nat → Nat → Nat → Bool)) (held : HeldKept kernel.system kernel.vfs vfs)
      (calm : Calm kernel.processes processes) :
      Step kernel
        { system := { kernel.system with terminalBackend := terminal, externalClose := close }
          vfs
          processes }

/-- The descriptor system as it is initialized, beside any filesystem and any processes of
which none sleeps on a descriptor. -/
structure Fresh (kernel : Kernel) : Prop where
  namespaces : kernel.system.namespaces = fun _ => {}
  openDescriptions : kernel.system.openDescriptions = fun _ => {}
  pipes : kernel.system.pipes = fun _ => {}
  linked : kernel.vfs.NamesLinked
  awake : ∀ slot reason target, reason.onDescriptor = true →
    ¬ kernel.processes.Asleep slot reason target

def Reachable (kernel : Kernel) : Prop :=
  ∃ start, Fresh start ∧ Relation.ReflTransGen Step start kernel

variable {kernel : Kernel}

theorem Fresh.conserved (fresh : Fresh kernel) : Conserved kernel := by
  have unnamed (index : Nat) : kernel.system.namedBy index = 0 := by
    unfold System.namedBy
    refine Finset.sum_eq_zero fun slot _ => System.Namespace.namedBy_of_empty (fun fd _ => ?_) index
    rw [fresh.namespaces]
  have noEnds (kind : DescriptionKind) (pipe : Nat) : kernel.system.ends kind pipe = 0 :=
    countIndex_eq_zero.mpr fun index _ => by simp [fresh.openDescriptions, OpenDescription.endOf]
  refine ⟨⟨fun index _ used => ?_, fun index _ _ => unnamed index, fun slot _ fd _ used => ?_,
    fun slot _ _ fd _ => ?_⟩, ⟨fun pipe _ => ?_, fun pipe _ => ?_, fun index _ used => ?_⟩,
    fun index _ used => ?_, fresh.linked⟩
  · simp [fresh.openDescriptions] at used
  · simp [fresh.namespaces] at used
  · simp [fresh.namespaces]
  · rw [noEnds, fresh.pipes]
  · rw [noEnds, fresh.pipes]
  · simp [fresh.openDescriptions] at used
  · simp [fresh.openDescriptions] at used

theorem Move.relax {relocks transfers : Prop} {before after : Kernel} (move : Move relocks transfers before after) :
    Move True True before after := by
  cases move with
  | outside terminal close calls held calm => exact Move.outside _ terminal close calls held calm
  | awaitBytes below live empty written calm => exact Move.awaitBytes _ below live empty written calm
  | awaitRoom below live full read calm => exact Move.awaitRoom _ below live full read calm
  | awaitLock key allowed calm => exact Move.awaitLock _ key trivial calm
  | mark closeOnExec named => exact Move.mark _ closeOnExec named
  | watch cursor => exact Move.watch _ cursor
  | bind handle below free => exact Move.bind _ handle below free
  | unbind below empty => exact Move.unbind _ below empty
  | clone handle sourceBelow targetBelow free =>
    exact Move.clone _ handle sourceBelow targetBelow free
  | install new closeOnExec free noPipe held =>
    exact Move.install _ new closeOnExec free noPipe held
  | installPipe freeRead freeWrite fdApart indexApart allowed below freePipe =>
    exact Move.installPipe _ freeRead freeWrite fdApart indexApart trivial below freePipe
  | share slotBelow slotUsed fdBelow fdFree indexBelow indexUsed =>
    exact Move.share _ slotBelow slotUsed fdBelow fdFree indexBelow indexUsed
  | drop named more => exact Move.drop _ named more
  | retire retires => exact Move.retire _ retires
  | readPipe length allowed calm awake => exact Move.readPipe _ length trivial calm awake
  | writePipe bytes allowed calm awake => exact Move.writePipe _ bytes trivial calm awake
  | relock advisory ranges allowed admissible =>
    exact Move.relock _ advisory ranges trivial admissible

/-- Every step is a sequence of moves. -/
theorem Step.runs {before after : Kernel} (step : Step before after) : Runs True True before after := by
  cases step with
  | operation operation =>
    intro sound
    obtain ⟨final, moves⟩ := operation.runs before sound
    exact ⟨final, Relation.ReflTransGen.mono (fun _ _ => Move.relax) _ _ moves⟩
  | outside terminal close held calm =>
    exact runs_of_move fun _ => Move.outside before terminal close _ held calm

/-- What holds of a fresh system and survives every move holds in every reachable state. -/
theorem Reachable.invariant {holds : Kernel → Prop} (reachable : Reachable kernel)
    (initially : ∀ start, Fresh start → holds start)
    (kept : ∀ before after, Conserved before → Move True True before after → holds before → holds after) :
    Conserved kernel ∧ holds kernel := by
  obtain ⟨start, fresh, steps⟩ := reachable
  induction steps with
  | refl => exact ⟨fresh.conserved, initially start fresh⟩
  | tail _ step hypothesis =>
    obtain ⟨sound, sofar⟩ := hypothesis
    obtain ⟨-, moves⟩ := step.runs sound
    clear step
    induction moves with
    | refl => exact ⟨sound, sofar⟩
    | tail _ move innerHypothesis =>
      exact ⟨move.conserved innerHypothesis.1, kept _ _ innerHypothesis.1 move innerHypothesis.2⟩

theorem Reachable.conserved (reachable : Reachable kernel) : Conserved kernel :=
  (reachable.invariant (fun _ _ => trivial) fun _ _ _ _ _ => trivial).1

/-! ### The books balance in every reachable state -/

/-- What the reference counts, the pipe ends and the handles of the tables say is so. -/
structure ReferencesConserved (kernel : Kernel) : Prop where
  counted : ∀ index < maximumOpenDescriptions,
    (kernel.system.openDescriptions index).used = true →
      (kernel.system.openDescriptions index).references = kernel.system.namedBy index ∧
        (kernel.system.openDescriptions index).references ≠ 0
  unnamed : ∀ index < maximumOpenDescriptions,
    (kernel.system.openDescriptions index).used = false → kernel.system.namedBy index = 0
  readers : ∀ pipe < maximumPipes,
    (kernel.system.pipes pipe).readers = kernel.system.ends .pipeRead pipe
  writers : ∀ pipe < maximumPipes,
    (kernel.system.pipes pipe).writers = kernel.system.ends .pipeWrite pipe
  handles : ∀ index < maximumOpenDescriptions,
    (kernel.system.openDescriptions index).used = true →
      (kernel.system.openDescriptions index).kind = .vfs →
        ∃ openFile, kernel.vfs.resolveOpen (kernel.system.openDescriptions index).vfsOwner
            (kernel.system.openDescriptions index).vfsHandle = .ok openFile ∧
          ∀ other < maximumOpenDescriptions, other ≠ index →
            (kernel.system.openDescriptions other).used = true →
            (kernel.system.openDescriptions other).holdsHandle = true →
              kernel.vfs.resolveOpen (kernel.system.openDescriptions other).vfsOwner
                (kernel.system.openDescriptions other).vfsHandle ≠ .ok openFile

/-- Two descriptions never hold the same open file, since each owns its own. -/
theorem HandlesHeld.apart {system : System} {vfs : Vfs} (held : HandlesHeld system vfs)
    {index other openFile : Nat} (below : index < maximumOpenDescriptions)
    (used : (system.openDescriptions index).used = true)
    (holds : (system.openDescriptions index).holdsHandle = true)
    (resolved : vfs.resolveOpen (system.openDescriptions index).vfsOwner
      (system.openDescriptions index).vfsHandle = .ok openFile)
    (otherBelow : other < maximumOpenDescriptions)
    (otherUsed : (system.openDescriptions other).used = true)
    (otherHolds : (system.openDescriptions other).holdsHandle = true)
    (otherResolved : vfs.resolveOpen (system.openDescriptions other).vfsOwner
      (system.openDescriptions other).vfsHandle = .ok openFile) : other = index := by
  have ownerOf {owner handle : Nat} (found : vfs.resolveOpen owner handle = .ok openFile) :
      (vfs.openFiles openFile).ownerPid = owner := by
    have openOn := Vfs.openOn_of_resolveOpen found
    cases (found.symm.trans openOn.resolveOpen)
    exact openOn.owned
  have mine := (held index below used holds).1
  have theirs := (held other otherBelow otherUsed otherHolds).1
  exact makeOpenId_index otherBelow below
    (theirs.symm.trans ((ownerOf otherResolved).symm.trans ((ownerOf resolved).trans mine)))

theorem Conserved.references (sound : Conserved kernel) : ReferencesConserved kernel := by
  refine ⟨sound.referenced.counted, sound.referenced.unnamed, sound.pipes.readers,
    sound.pipes.writers, fun index below used kindOf => ?_⟩
  have holds : (kernel.system.openDescriptions index).holdsHandle = true := by
    simp [OpenDescription.holdsHandle, kindOf]
  obtain ⟨-, target, found⟩ := sound.handles index below used holds
  have resolved := Vfs.resolveOpen_of_inode found
  exact ⟨_, resolved, fun other otherBelow different otherUsed otherHolds otherResolved =>
    different (sound.handles.apart below used holds resolved otherBelow otherUsed otherHolds
      otherResolved)⟩

/-- Descriptor references are conserved in every run of the system. -/
theorem reachable_referencesConserved {kernel : Kernel} (reachable : Reachable kernel) :
    ReferencesConserved kernel := reachable.conserved.references

/-- All subsystems as the kernel starts them. -/
def Kernel.initialized (tick : Nat) : Kernel := { processes := Table.initialized tick }

theorem fresh_initialized (tick : Nat) : Fresh (initialized tick) := by
  refine ⟨rfl, rfl, rfl, ?_, ?_⟩
  · refine ⟨rfl, fun _ _ used => (nomatch used), fun _ _ used => (nomatch used),
      fun index _ used => ?_⟩
    have onlyRoot : index = 0 := by
      by_contra other
      simp [initialized, Vfs.initialized, other] at used
    subst onlyRoot
    rfl
  · rintro slot reason target watched ⟨-, -, blocked, -, -⟩
    rw [initialized, initialized_processes, Function.update_apply] at blocked
    split at blocked <;> cases blocked

/-- The state after some operations in a row. -/
def Kernel.after (kernel : Kernel) (operations : List Operation) : Kernel :=
  operations.foldl (fun kernel operation => operation.next kernel) kernel

theorem Reachable.after (reachable : Reachable kernel)
    (operations : List Operation) : Reachable (kernel.after operations) := by
  induction operations generalizing kernel with
  | nil => exact reachable
  | cons operation rest hypothesis =>
    obtain ⟨start, fresh, steps⟩ := reachable
    exact hypothesis ⟨start, fresh, steps.tail (Step.operation kernel operation)⟩

theorem reachable_initialized (tick : Nat) : Reachable (initialized tick) :=
  ⟨_, fresh_initialized tick, Relation.ReflTransGen.refl⟩

/-- A process lets its standard input read from a pipe to itself. -/
def pipeRun : List Operation := [
  .bindProcess 0x100000000 true,
  .createPipe 0x100000000,
  .duplicateTo 0x100000000 3 0]

theorem pipeRun_referencesConserved :
    (((initialized 0).after pipeRun).system.openDescriptions 3).references = 2 ∧
      ReferencesConserved ((initialized 0).after pipeRun) :=
  ⟨by decide +kernel, reachable_referencesConserved ((reachable_initialized 0).after pipeRun)⟩

end ZigOs.RuntimeFd
