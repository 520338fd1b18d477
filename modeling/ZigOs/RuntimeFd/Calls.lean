/-
This file shows that every descriptor call is a sequence of moves, whether it
succeeds or fails half way. What a call looks up first is what the move needs:
a free descriptor and a free description, a descriptor that names a live
description, a pipe that is neither empty nor full.
-/

import ZigOs.RuntimeFd.Closing

namespace ZigOs.RuntimeFd

open Scan RuntimeProcess RuntimeVfs Call List System Move

variable {relocks transfers : Prop}

/-- The balance of the books may be assumed of the state a call starts from. -/
theorem runs_assuming {Value : Type} {kernel : Kernel} {call : KernelCall Value}
    (runs : Conserved kernel → KeepsFrom (Runs relocks transfers) kernel call) :
    KeepsFrom (Runs relocks transfers) kernel call := fun sound => runs sound sound

/-! ### What the lookups find -/

theorem processSlot_below {handle slot : Nat} (found : processSlot handle = .ok slot) :
    slot < maximumProcesses := by
  unfold processSlot at found
  split at found
  · cases found
  · cases found
    omega

namespace System

variable {system : System} {slot : Nat}

theorem resolveNamespace_ok {handle : Nat} (found : system.resolveNamespace handle = .ok slot) :
    slot < maximumProcesses ∧ (system.namespaces slot).used = true := by
  unfold resolveNamespace at found
  split at found
  · cases found
  · rename_i candidate located
    split at found
    · cases found
    · rename_i owned
      cases found
      simp only [not_or, Bool.not_eq_false] at owned
      exact ⟨processSlot_below located, owned.1⟩

variable {index : Nat}

theorem resolveDescriptor_ok {fd : Nat} (found : system.resolveDescriptor slot fd = .ok index) :
    fd < maximumDescriptorsPerProcess ∧ ((system.namespaces slot).descriptors fd).used = true ∧
      ((system.namespaces slot).descriptors fd).openIndex = index ∧
      index < maximumOpenDescriptions ∧ (system.openDescriptions index).used = true := by
  unfold resolveDescriptor at found
  dsimp only at found
  split at found
  · cases found
  · split at found
    · cases found
    · split at found
      · cases found
      · rename_i below named described
        cases found
        simp only [not_or, Bool.not_eq_false, ge_iff_le, not_le] at below named described
        exact ⟨below, named.1, rfl, named.2, described.1⟩

theorem resolvePipe_ok {description : OpenDescription}
    (found : system.resolvePipe description = .ok index) :
    index < maximumPipes ∧ (system.pipes index).used = true ∧ description.resourceIndex = index ∧
      (system.pipes index).generation = description.resourceGeneration := by
  unfold resolvePipe at found
  dsimp only at found
  split at found
  · cases found
  · split at found
    · cases found
    · rename_i below live
      cases found
      simp only [not_or, Bool.not_eq_false, ne_eq, not_not, ge_iff_le, not_le] at below live
      exact ⟨below, live.1, rfl, live.2⟩

variable {count : Nat} {found : List Nat}

theorem findFreeDescriptors_ok (result : system.findFreeDescriptors slot count = .ok found) :
    found.length = count ∧ found.Nodup ∧ ∀ fd ∈ found, fd < maximumDescriptorsPerProcess ∧
      ((system.namespaces slot).descriptors fd).used = false := by
  unfold findFreeDescriptors at result
  split at result
  · rename_i indices located
    cases result
    obtain ⟨length, apart, free⟩ := firstIndices_eq_some located
    exact ⟨length, apart, fun fd member => ⟨(free fd member).1, by simpa using (free fd member).2⟩⟩
  · cases result

theorem findFreeOpenDescriptions_ok (result : system.findFreeOpenDescriptions count = .ok found) :
    found.length = count ∧ found.Nodup ∧ ∀ index ∈ found, index < maximumOpenDescriptions ∧
      (system.openDescriptions index).used = false := by
  unfold findFreeOpenDescriptions at result
  split at result
  · rename_i indices located
    cases result
    obtain ⟨length, apart, free⟩ := firstIndices_eq_some located
    exact ⟨length, apart,
      fun index member => ⟨(free index member).1, by simpa using (free index member).2⟩⟩
  · cases result

theorem findFreePipe_ok {pipe : Nat} (result : system.findFreePipe = .ok pipe) :
    pipe < maximumPipes ∧ (system.pipes pipe).used = false := by
  unfold findFreePipe at result
  split at result
  · rename_i found
    cases result
    exact ⟨firstIndex_lt found, by simpa using firstIndex_test found⟩
  · cases result

end System

namespace Kernel

variable {Value : Type} {kernel : Kernel}

variable {handle : Nat}

theorem keepsFrom_caller {relation : Kernel → Kernel → Prop} [Std.Refl relation]
    {next : Process × Nat → KernelCall Value}
    (rest : ∀ process slot, kernel.processes.get handle = .ok process →
      kernel.system.resolveNamespace handle = .ok slot →
        KeepsFrom relation kernel (next (process, slot))) :
    KeepsFrom relation kernel (caller handle >>= next) := by
  unfold KeepsFrom
  rw [bind_apply]
  simp only [caller, bind_state]
  cases found : kernel.processes.get handle with
  | error failure => exact refl kernel
  | ok process =>
    rw [bind_lift_ok]
    cases located : kernel.system.resolveNamespace handle with
    | error failure => exact refl kernel
    | ok slot => exact rest process slot found located

variable {slot : Nat}

theorem keepsFrom_findFreeSlots {relation : Kernel → Kernel → Prop} [Std.Refl relation]
    {process : Process} {next : Nat × Nat → KernelCall Value}
    (located : kernel.system.resolveNamespace handle = .ok slot)
    (rest : ∀ fd index, FreeSlots kernel.system slot fd index →
      KeepsFrom relation kernel (next (fd, index))) :
    KeepsFrom relation kernel (findFreeSlots slot process >>= next) := by
  unfold KeepsFrom
  rw [bind_apply]
  simp only [findFreeSlots, bind_state]
  cases kernel.system.requireDescriptorCapacity slot process 1 with
  | error failure => exact refl kernel
  | ok _ =>
    rw [bind_lift_ok]
    cases descriptors : kernel.system.findFreeDescriptors slot 1 with
    | error failure => exact refl kernel
    | ok fds =>
      rw [bind_lift_ok]
      cases opens : kernel.system.findFreeOpenDescriptions 1 with
      | error failure => exact refl kernel
      | ok indices =>
        obtain ⟨fdCount, -, fdFree⟩ := System.findFreeDescriptors_ok descriptors
        obtain ⟨indexCount, -, indexFree⟩ := System.findFreeOpenDescriptions_ok opens
        obtain ⟨fd, rfl⟩ := length_eq_one_iff.mp fdCount
        obtain ⟨index, rfl⟩ := length_eq_one_iff.mp indexCount
        obtain ⟨slotBelow, slotUsed⟩ := System.resolveNamespace_ok located
        obtain ⟨fdBelow, fdUnused⟩ := fdFree fd mem_cons_self
        obtain ⟨indexBelow, indexUnused⟩ := indexFree index mem_cons_self
        exact rest fd index ⟨slotBelow, slotUsed, fdBelow, fdUnused, indexBelow, indexUnused⟩

variable {result : Except Error Value} {after : Kernel}

/-- A call on the processes leaves the other subsystems alone. -/
theorem inProcesses_after {call : TableCall Value}
    (outcome : inProcesses call kernel = (result, after)) :
    after = { kernel with processes := (call kernel.processes).2 } :=
  (Prod.mk.inj outcome).2.symm

theorem inVfs_after {call : VfsCall Value} (outcome : inVfs call kernel = (result, after)) :
    after = { kernel with vfs := (call kernel.vfs).2 } ∧
      call kernel.vfs = (result, (call kernel.vfs).2) := by
  obtain ⟨same, final⟩ := Prod.mk.inj outcome
  exact ⟨final.symm, Prod.ext same rfl⟩

/-! ### Processes and their namespaces -/

/-- Standard streams go into free descriptors and free descriptions, one after another. -/
theorem installStreams_runs (slot : Nat) (streams : List ((Nat × Nat) × Bool × Bool))
    {kernel : Kernel}
    (free : ∀ stream ∈ streams, FreeSlots kernel.system slot stream.1.1 stream.1.2)
    (apart : streams.Pairwise fun first second =>
      second.1.1 ≠ first.1.1 ∧ second.1.2 ≠ first.1.2) :
    Runs relocks transfers kernel { kernel with system := installStreams slot streams kernel.system } := by
  induction streams generalizing kernel with
  | nil => exact refl kernel
  | cons stream rest hypothesis =>
    obtain ⟨⟨fd, index⟩, readable, writable⟩ := stream
    obtain ⟨different, restApart⟩ := pairwise_cons.mp apart
    have here := free _ mem_cons_self
    have first : Runs relocks transfers kernel { kernel with
        system := kernel.system.installDescription slot fd index
          { kind := .terminal, readable, writable } false } :=
      runs_of_move fun _ => Move.install kernel _ false here rfl (by simp)
    have others (other) (member : other ∈ rest) :
        FreeSlots (kernel.system.installDescription slot fd index
          { kind := .terminal, readable, writable } false) slot other.1.1 other.1.2 :=
      (free other (mem_cons_of_mem _ member)).install _ false (different other member).1
        (different other member).2
    exact IsTrans.trans _ _ _ first (hypothesis others restApart)

/-- The standard streams of a new namespace, which are three or none. -/
theorem standardStreams_free {system : System} {installed : Bool} {openSlots : List Nat}
    (handle : Nat) (slotBelow : slot < maximumProcesses)
    (opens : (if installed then system.findFreeOpenDescriptions 3 else .ok []) = .ok openSlots) :
    (∀ stream ∈ ((List.range 3).zip openSlots).zip standardStreams,
      FreeSlots (system.modifyNamespace slot fun _ => { used := true, ownerHandle := handle }) slot
        stream.1.1 stream.1.2) ∧
    (((List.range 3).zip openSlots).zip standardStreams).Pairwise fun first second =>
      second.1.1 ≠ first.1.1 ∧ second.1.2 ≠ first.1.2 := by
  cases installed with
  | false =>
    cases opens
    simp
  | true =>
    obtain ⟨count, distinct, unused⟩ := System.findFreeOpenDescriptions_ok opens
    obtain ⟨first, second, third, rfl⟩ := length_eq_three.mp count
    have free (fd index : Nat) (fdBelow : fd < maximumDescriptorsPerProcess)
        (member : index ∈ [first, second, third]) :
        FreeSlots (system.modifyNamespace slot fun _ => { used := true, ownerHandle := handle })
          slot fd index :=
      ⟨slotBelow, by simp [modifyNamespace], fdBelow, by simp [modifyNamespace],
        (unused index member).1, (unused index member).2⟩
    have streams : ((List.range 3).zip [first, second, third]).zip standardStreams =
        [((0, first), true, false), ((1, second), false, true), ((2, third), false, true)] := rfl
    rw [streams]
    simp only [nodup_cons, mem_cons, not_mem_nil, or_false, not_or] at distinct
    obtain ⟨⟨firstSecond, firstThird⟩, secondThird, -⟩ := distinct
    constructor
    · intro stream member
      simp only [mem_cons, not_mem_nil, or_false] at member
      rcases member with rfl | rfl | rfl
      · exact free 0 first (by decide) (by simp)
      · exact free 1 second (by decide) (by simp)
      · exact free 2 third (by decide) (by simp)
    · simpa [eq_comm] using ⟨⟨firstSecond, firstThird⟩, secondThird⟩

theorem bindProcess_runs (handle : Nat) (installStandardStreams : Bool) :
    Keeps (Runs relocks transfers) (bindProcess handle installStandardStreams) := by
  refine keeps_of_keepsFrom fun kernel => keepsFrom_state ?_
  refine keepsFrom_lift fun process _ => keepsFrom_lift fun slot located => ?_
  refine keepsFrom_failWhen fun free => keepsFrom_failWhen fun _ => ?_
  refine keepsFrom_lift fun openSlots opens => ?_
  refine keepsFrom_bind (inProcesses_runs (setResourceUsage_calm _ _ _ _) kernel)
    fun _ after outcome => ?_
  obtain rfl := inProcesses_after outcome
  have slotBelow := processSlot_below located
  obtain ⟨slots, apart⟩ := standardStreams_free handle slotBelow opens
  have binding : Runs relocks transfers
      { kernel with processes := (Table.setResourceUsage handle process.memoryPages
          (if installStandardStreams then 3 else 0) process.socketCount kernel.processes).2 }
      { kernel with
        processes := (Table.setResourceUsage handle process.memoryPages
          (if installStandardStreams then 3 else 0) process.socketCount kernel.processes).2
        system := kernel.system.modifyNamespace slot fun _ =>
          { used := true, ownerHandle := handle } } :=
    runs_of_move fun _ => bind _ handle slotBelow (by simpa using free)
  exact keepsFrom_change (IsTrans.trans _ _ _ binding (installStreams_runs slot _ slots apart))

theorem cloned_eq (system : System) (source target handle : Nat) :
    (List.range maximumDescriptorsPerProcess).foldl (retainDescriptor target)
      (system.modifyNamespace target fun _ =>
        { used := true
          ownerHandle := handle
          descriptors := (system.namespaces source).descriptors }) =
      system.cloned source target handle := by
  unfold cloned
  rfl

theorem cloneProcess_runs (sourceHandle targetHandle : Nat) :
    Keeps (Runs relocks transfers) (cloneProcess sourceHandle targetHandle) := by
  refine keeps_of_keepsFrom fun kernel => keepsFrom_state ?_
  refine keepsFrom_lift fun _ _ => keepsFrom_lift fun process _ => ?_
  refine keepsFrom_lift fun source located => keepsFrom_lift fun target placed => ?_
  refine keepsFrom_failWhen fun free => keepsFrom_failWhen fun _ => ?_
  refine keepsFrom_failWhen fun _ => keepsFrom_lift fun _ _ => ?_
  refine keepsFrom_bind (inProcesses_runs (setResourceUsage_calm _ _ _ _) kernel)
    fun _ after outcome => ?_
  obtain rfl := inProcesses_after outcome
  refine keepsFrom_change_bind ?_ (keepsFrom_pure _)
  dsimp only
  rw [cloned_eq]
  exact runs_of_move fun _ => clone _ targetHandle (System.resolveNamespace_ok located).1
    (processSlot_below placed) (by simpa using free)

/-- A namespace is emptied and given back. -/
theorem emptyNamespace_runs {Next : Type} {next : Unit → KernelCall Next}
    (slotBelow : slot < maximumProcesses) (rest : Keeps (Runs relocks transfers) (next ()))
    {start : Kernel} {closed : Nat} {middle : Kernel}
    (outcome : closeEach slot (fun _ => true) (List.range maximumDescriptorsPerProcess) start =
      (.ok closed, middle)) : KeepsFrom (Runs relocks transfers) middle
      (changeSystem (fun system => system.modifyNamespace slot fun _ => {}) >>= next) :=
  keepsFrom_change_bind
    (runs_of_move fun _ => unbind middle slotBelow (closeEach_empty outcome)) rest.keepsFrom

theorem closeAllOf_runs (slotBelow : slot < maximumProcesses) : Keeps (Runs relocks transfers)
      (closeEach slot (fun _ => true) (List.range maximumDescriptorsPerProcess)) :=
  closeEach_runs _ slotBelow _ fun _ member => mem_range.mp member

theorem releaseProcess_runs (handle : Nat) : Keeps (Runs relocks transfers) (releaseProcess handle) := by
  refine keeps_of_keepsFrom fun kernel => keepsFrom_caller fun _ slot _ located => ?_
  have slotBelow := (System.resolveNamespace_ok located).1
  refine keepsFrom_bind (closeAllOf_runs slotBelow kernel) fun _ middle outcome => ?_
  refine emptyNamespace_runs slotBelow ?_ outcome
  exact keeps_state_bind fun _ => keeps_lift_bind fun _ =>
    keeps_bind (inProcesses_runs (setResourceUsage_calm _ _ _ _)) fun _ => keeps_pure _

theorem sweepEach_runs (slots : List Nat) (below : ∀ slot ∈ slots, slot < maximumProcesses) :
    Keeps (Runs relocks transfers) (sweepEach slots) := by
  induction slots with
  | nil => exact keeps_ok _
  | cons slot rest hypothesis =>
    have others := hypothesis fun other member => below other (mem_cons_of_mem _ member)
    have slotBelow := below slot mem_cons_self
    refine keeps_state_bind fun _ => keeps_ite others ?_
    refine keeps_of_keepsFrom fun kernel => ?_
    refine keepsFrom_bind (closeAllOf_runs slotBelow kernel) fun _ middle outcome => ?_
    exact emptyNamespace_runs slotBelow (keeps_bind others fun _ => keeps_pure _) outcome

theorem sweepStaleNamespaces_runs : Keeps (Runs relocks transfers) sweepStaleNamespaces :=
  sweepEach_runs _ fun _ member => mem_range.mp member

/-! ### New descriptors -/

theorem syncDescriptorCount_after (handle : Nat) (kernel : Kernel) :
    ∃ processes, (syncDescriptorCount handle kernel).2 = { kernel with processes } ∧
      Calm kernel.processes processes := by
  unfold syncDescriptorCount
  rw [bind_state]
  cases kernel.system.resolveNamespace handle with
  | error failure => exact ⟨kernel.processes, rfl, refl _⟩
  | ok slot =>
    rw [bind_lift_ok]
    cases kernel.processes.get handle with
    | error failure => exact ⟨kernel.processes, rfl, refl _⟩
    | ok process => exact ⟨_, rfl, setResourceUsage_calm _ _ _ _ kernel.processes⟩

variable {new : NewDescription}

/-- Undoing an installation is retiring what was installed. -/
theorem undone_eq (system : System) (slot fd index : Nat) (closeOnExec : Bool)
    (noPipe : new.kind.isPipe = false) :
    ((system.installDescription slot fd index new closeOnExec).setDescriptor slot fd {}
      ).clearDescription index =
      (system.installDescription slot fd index new closeOnExec).retired slot fd := by
  have untouched : Pipe.dropEnd new.kind = id := by
    cases kindOf : new.kind
    case pipeRead => simp [kindOf, DescriptionKind.isPipe] at noPipe
    case pipeWrite => simp [kindOf, DescriptionKind.isPipe] at noPipe
    all_goals rfl
  simp [retired, System.described, installDescription, initializeDescription,
    clearDescription, setDescriptor, modifyNamespace, modifyPipe,
    modifyDescription, NewDescription.description, untouched]

variable {fd index : Nat}

/-- What was just installed may be retired with the handle it holds. -/
theorem installed_retires (kernel : Kernel) {vfs : Vfs} {processes : Table} (closeOnExec : Bool)
    (noPipe : new.kind.isPipe = false) (free : FreeSlots kernel.system slot fd index)
    (linked : vfs.NamesLinked) (kept : Vfs.HandlesKept (· ≠ makeOpenId index
      (nextGeneration (kernel.system.openDescriptions index).generation)) kernel.vfs vfs)
    (calm : Calm kernel.processes processes) :
    Retires { kernel with system := kernel.system.installDescription slot fd index new closeOnExec }
      slot fd vfs processes := by
  have openIndex : (((kernel.system.installDescription slot fd index new closeOnExec).namespaces
      slot).descriptors fd).openIndex = index := by
    simp [installDescription, setDescriptor, modifyNamespace]
  have described : (kernel.system.installDescription slot fd index new closeOnExec).described slot
      fd = new.description (nextGeneration (kernel.system.openDescriptions index).generation) := by
    rw [System.described, openIndex, installDescription_self]
  refine ⟨⟨free.slotBelow, free.fdBelow, ?_⟩, ?_, linked, ?_, calm, ?_, ?_, ?_⟩
  · simp [installDescription, setDescriptor, modifyNamespace]
  · rw [described]
    rfl
  · rwa [openIndex, described]
  · rw [described]
    intro (kindOf : new.kind = .pipeRead)
    rw [kindOf] at noPipe
    cases noPipe
  · rw [described]
    intro (kindOf : new.kind = .pipeWrite)
    rw [kindOf] at noPipe
    cases noPipe
  · rw [described]
    intro locked
    simp [NewDescription.description] at locked

theorem installOrUndo_runs {kernel : Kernel} (handle : Nat) (new : NewDescription)
    (closeOnExec : Bool) (noPipe : new.kind.isPipe = false)
    (free : FreeSlots kernel.system slot fd index)
    (owned : new.vfsHandle ≠ 0 → new.vfsOwner = makeOpenId index
      (nextGeneration (kernel.system.openDescriptions index).generation))
    (held : (new.kind = .vfs ∨ new.kind = .terminal ∧ new.vfsHandle ≠ 0) →
      new.vfsOwner = makeOpenId index
        (nextGeneration (kernel.system.openDescriptions index).generation) ∧
      ∃ target, kernel.vfs.inode new.vfsOwner new.vfsHandle = some target) :
    KeepsFrom (Runs relocks transfers) kernel (installOrUndo handle slot fd index new closeOnExec) := by
  let installed : Kernel := { kernel with
    system := kernel.system.installDescription slot fd index new closeOnExec }
  have install : Runs relocks transfers kernel installed :=
    runs_of_move fun _ => Move.install kernel new closeOnExec free noPipe held
  refine keepsFrom_change_bind install ?_
  refine keepsFrom_attempt (syncDescriptorCount_runs handle installed) ?_
  obtain ⟨processes, synced, -⟩ := syncDescriptorCount_after handle installed
  have undone {vfs : Vfs} (linked : kernel.vfs.NamesLinked → vfs.NamesLinked)
      (kept : Vfs.HandlesKept (· ≠ makeOpenId index
        (nextGeneration (kernel.system.openDescriptions index).generation)) kernel.vfs vfs) :
      Runs relocks transfers { installed with processes }
        { system := (installed.system.setDescriptor slot fd {}).clearDescription index, vfs,
          processes } := by
    rw [undone_eq kernel.system slot fd index closeOnExec noPipe]
    exact runs_of_move fun sound => retire _
      (installed_retires { kernel with processes } closeOnExec noPipe free
        (linked sound.linked) kept (refl _))
  rw [synced]
  split
  · exact keepsFrom_pure _
  · refine keepsFrom_ite (fun holds => ?_) fun _ => ?_
    · exact fun sound => undone (fun linked => (Vfs.close_keeps _ _ linked).1)
        (owned holds ▸ (Vfs.close_keeps new.vfsOwner new.vfsHandle sound.linked).2) sound
    · exact undone id fun _ _ _ _ found => found

theorem openFileAt_runs (handle directory : Nat) (path : Bytes) (flags : OpenFlags)
    (mode : BitVec 16) (tick : Nat) :
    Keeps (Runs relocks transfers) (openFileAt handle directory path flags mode tick) := by
  refine keeps_of_keepsFrom fun kernel => keepsFrom_caller fun process slot _ located => ?_
  refine keepsFrom_findFreeSlots located fun fd index free => ?_
  refine runs_assuming fun sound => keepsFrom_state ?_
  refine keepsFrom_failWhen fun _ => ?_
  refine keepsFrom_bind (inVfs_runs (Vfs.openOwned_steady _ _ _ _ _ _ _) kernel)
    fun vfsHandle after outcome => ?_
  obtain ⟨rfl, opened⟩ := inVfs_after outcome
  refine keepsFrom_state (keepsFrom_lift fun stream _ => keepsFrom_ite ?_ ?_)
  · -- A console without a terminal: the handle that nothing describes yet is given back.
    intro _
    refine keepsFrom_bind ?_ fun _ _ _ => keepsFrom_fail _
    refine runs_of_move fun opened => outside _ _ _ _ ?_ (refl _)
    obtain ⟨linked, kept⟩ := Vfs.close_keeps (makeOpenId index
      (nextGeneration (kernel.system.openDescriptions index).generation)) vfsHandle opened.linked
    exact heldKept_of_free opened.handles free.indexBelow free.indexFree linked kept
  · intro _
    refine keepsFrom_bind (installOrUndo_runs handle _ false ?_ ?_ (fun _ => rfl) fun _ =>
      ⟨rfl, Vfs.openOwned_opens sound.linked opened⟩) fun _ _ _ => keepsFrom_pure _
    · dsimp only
      split <;> rfl
    · exact ⟨free.slotBelow, free.slotUsed, free.fdBelow, free.fdFree, free.indexBelow,
        free.indexFree⟩

theorem openFile_runs (handle : Nat) (path : Bytes) (flags : OpenFlags) (mode : BitVec 16)
    (tick : Nat) : Keeps (Runs relocks transfers) (openFile handle path flags mode tick) :=
  keeps_state_bind fun _ => keeps_lift_bind fun _ =>
    openFileAt_runs _ _ _ _ _ _

theorem createDirectoryWatch_runs (handle directoryFd : Nat) :
    Keeps (Runs relocks transfers) (createDirectoryWatch handle directoryFd) := by
  refine keeps_of_keepsFrom fun kernel => keepsFrom_caller fun process slot _ located => ?_
  refine keepsFrom_state (keepsFrom_lift fun _ _ => keepsFrom_failWhen fun _ => ?_)
  refine keepsFrom_lift fun info _ => keepsFrom_lift fun _ _ => ?_
  refine keepsFrom_failWhen fun _ => keepsFrom_findFreeSlots located fun fd index free => ?_
  refine keepsFrom_lift fun cursor _ => ?_
  refine keepsFrom_bind (installOrUndo_runs handle _ false rfl free ?_ ?_)
    fun _ _ _ => keepsFrom_pure _
  · intro holds
    exact absurd rfl holds
  · rintro (onVfs | ⟨onTerminal, _⟩)
    · cases onVfs
    · cases onTerminal

theorem createExternalDescriptor_runs (handle : Nat) (kind : DescriptionKind)
    (resource : ExternalResource) (readable writable closeOnExec : Bool) :
    Keeps (Runs relocks transfers)
      (createExternalDescriptor handle kind resource readable writable closeOnExec) := by
  refine keeps_of_keepsFrom fun kernel => keepsFrom_failWhen fun checked => ?_
  refine keepsFrom_caller fun process slot _ located => keepsFrom_state ?_
  refine keepsFrom_lift fun _ _ => keepsFrom_failWhen fun _ => ?_
  refine keepsFrom_findFreeSlots located fun fd index free => ?_
  have socket : kind = .udpSocket ∨ kind = .tcpSocket := by
    by_contra other
    exact checked (.inl (not_or.mp other))
  refine keepsFrom_bind (installOrUndo_runs handle _ closeOnExec ?_ free ?_ ?_)
    fun _ _ _ => keepsFrom_pure _
  · rcases socket with rfl | rfl <;> rfl
  · intro holds
    exact absurd rfl holds
  · intro holds
    rcases socket with rfl | rfl <;> simp at holds

theorem createPipe_runs (handle : Nat) : Keeps (Runs relocks True) (createPipe handle) := by
  refine keeps_of_keepsFrom fun kernel => keepsFrom_caller fun process slot _ located => ?_
  refine keepsFrom_state (keepsFrom_lift fun _ _ => ?_)
  refine keepsFrom_lift fun fds descriptors => keepsFrom_lift fun indices opens => ?_
  refine keepsFrom_lift fun pipe found => ?_
  obtain ⟨fdCount, fdApart, fdFree⟩ := System.findFreeDescriptors_ok descriptors
  obtain ⟨indexCount, indexApart, indexFree⟩ := System.findFreeOpenDescriptions_ok opens
  obtain ⟨readFd, writeFd, rfl⟩ := length_eq_two.mp fdCount
  obtain ⟨readIndex, writeIndex, rfl⟩ := length_eq_two.mp indexCount
  obtain ⟨pipeBelow, pipeFree⟩ := System.findFreePipe_ok found
  obtain ⟨slotBelow, slotUsed⟩ := System.resolveNamespace_ok located
  have free (fd index : Nat) (fdMember : fd ∈ [readFd, writeFd])
      (indexMember : index ∈ [readIndex, writeIndex]) : FreeSlots kernel.system slot fd index :=
    ⟨slotBelow, slotUsed, (fdFree fd fdMember).1, (fdFree fd fdMember).2,
      (indexFree index indexMember).1, (indexFree index indexMember).2⟩
  simp only [nodup_cons, mem_singleton] at fdApart indexApart
  have install : Runs relocks True kernel { kernel with
      system := installPipe kernel.system slot readFd writeFd readIndex writeIndex pipe } :=
    runs_of_move fun _ => Move.installPipe kernel (free _ _ (by simp) (by simp))
      (free _ _ (by simp) (by simp)) (Ne.symm fdApart.1) (Ne.symm indexApart.1) trivial pipeBelow pipeFree
  refine keepsFrom_change_bind install ?_
  exact keepsFrom_bind (syncDescriptorCount_runs handle _) fun _ _ _ => keepsFrom_pure _

/-! ### Duplication -/

theorem shareDescription_runs (slotBelow : slot < maximumProcesses)
    (slotUsed : (kernel.system.namespaces slot).used = true)
    (fdBelow : fd < maximumDescriptorsPerProcess)
    (fdFree : ((kernel.system.namespaces slot).descriptors fd).used = false)
    (indexBelow : index < maximumOpenDescriptions)
    (indexUsed : (kernel.system.openDescriptions index).used = true) :
    KeepsFrom (Runs relocks transfers) kernel (changeSystem (shareDescription slot fd index)) :=
  runs_of_move fun _ => share kernel slotBelow slotUsed fdBelow fdFree indexBelow indexUsed

theorem duplicate_runs (handle sourceFd : Nat) :
    Keeps (Runs relocks transfers) (duplicate handle sourceFd) := by
  refine keeps_of_keepsFrom fun kernel => keepsFrom_caller fun process slot _ located => ?_
  refine keepsFrom_state (keepsFrom_lift fun _ _ => ?_)
  refine keepsFrom_lift fun source resolved => keepsFrom_failWhen fun _ => ?_
  refine keepsFrom_lift fun fds descriptors => ?_
  obtain ⟨count, -, free⟩ := System.findFreeDescriptors_ok descriptors
  obtain ⟨target, rfl⟩ := length_eq_one_iff.mp count
  obtain ⟨slotBelow, slotUsed⟩ := System.resolveNamespace_ok located
  obtain ⟨fdBelow, fdFree⟩ := free target mem_cons_self
  obtain ⟨-, -, -, indexBelow, indexUsed⟩ := System.resolveDescriptor_ok resolved
  refine keepsFrom_bind
    (shareDescription_runs slotBelow slotUsed fdBelow fdFree indexBelow indexUsed) fun _ _ _ => ?_
  exact keepsFrom_bind (syncDescriptorCount_runs handle _) fun _ _ _ => keepsFrom_pure _

theorem duplicateTo_runs (handle sourceFd targetFd : Nat) :
    Keeps (Runs relocks transfers) (duplicateTo handle sourceFd targetFd) := by
  refine keeps_of_keepsFrom fun kernel => keepsFrom_failWhen fun fdBelow => ?_
  refine keepsFrom_caller fun process slot _ located => keepsFrom_state ?_
  refine keepsFrom_lift fun source resolved => ?_
  refine keepsFrom_ite (fun _ => keepsFrom_pure _) fun different => ?_
  refine keepsFrom_lift fun _ _ => keepsFrom_failWhen fun _ => ?_
  obtain ⟨slotBelow, slotUsed⟩ := System.resolveNamespace_ok located
  obtain ⟨sourceBelow, sourceUsed, sourceIndex, indexBelow, indexUsed⟩ :=
    System.resolveDescriptor_ok resolved
  have rest {Value : Type} {value : Value} {after : Kernel} :
      KeepsFrom (Runs relocks transfers) after (do syncDescriptorCount handle; return value) :=
    keepsFrom_bind (syncDescriptorCount_runs handle _) fun _ _ _ => keepsFrom_pure _
  refine keepsFrom_ite (fun targetUsed => ?_) fun targetFree => ?_
  · refine keepsFrom_bind (closeDescriptorAt_runs slotBelow (not_le.mp fdBelow) kernel)
      fun _ middle closed => runs_assuming fun sound => ?_
    have namespaces := closeDescriptorAt_namespaces closed
    -- The source survives the close, because its own descriptor still names it.
    have sourceKept : (middle.system.namespaces slot).descriptors sourceFd =
        (kernel.system.namespaces slot).descriptors sourceFd := by
      rw [namespaces]
      simp [setDescriptor, modifyNamespace, different]
    have alive := (sound.described_used ⟨slotBelow, sourceBelow, sourceKept ▸ sourceUsed⟩).2
    rw [System.described, sourceKept, sourceIndex] at alive
    refine keepsFrom_bind (shareDescription_runs slotBelow ?_ (not_le.mp fdBelow) ?_ indexBelow
      alive) fun _ _ _ => rest
    · rw [namespaces]
      simpa [setDescriptor, modifyNamespace] using slotUsed
    · rw [namespaces]
      simp [setDescriptor, modifyNamespace]
  · exact keepsFrom_bind (shareDescription_runs slotBelow slotUsed (not_le.mp fdBelow)
      (by simpa using targetFree) indexBelow indexUsed) fun _ _ _ => rest

theorem duplicateStream_runs (handle : Nat) (source : Option Nat) (targetFd : Nat) :
    Keeps (Runs relocks transfers) (duplicateStream handle source targetFd) := by
  unfold duplicateStream
  split
  · exact keeps_bind (duplicateTo_runs _ _ _) fun _ => keeps_pure _
  · exact keeps_pure _

/-- The last step of the calls that close several descriptors. -/
theorem closeEach_sync_runs (handle : Nat) (test : Descriptor → Bool)
    (slotBelow : slot < maximumProcesses) (fds : List Nat)
    (below : ∀ fd ∈ fds, fd < maximumDescriptorsPerProcess) : Keeps (Runs relocks transfers) (do
      let closed ← closeEach slot test fds
      syncDescriptorCount handle
      return closed) :=
  keeps_bind (closeEach_runs test slotBelow fds below) fun _ =>
    keeps_bind (syncDescriptorCount_runs handle) fun _ => keeps_pure _

theorem configurePipelineChild_runs (handle : Nat) (stdinSource stdoutSource : Option Nat) :
    Keeps (Runs relocks transfers) (configurePipelineChild handle stdinSource stdoutSource) := by
  refine keeps_of_keepsFrom fun kernel => keepsFrom_caller fun _ slot _ located => ?_
  have slotBelow := (System.resolveNamespace_ok located).1
  refine keepsFrom_failWhen fun _ => keepsFrom_state ?_
  refine keepsFrom_lift fun _ _ => keepsFrom_lift fun _ _ => ?_
  refine keepsFrom_bind (duplicateStream_runs _ _ _ kernel) fun _ middle _ => ?_
  refine keepsFrom_bind (duplicateStream_runs _ _ _ middle) fun _ final _ => ?_
  exact closeEach_sync_runs handle _ slotBelow _ (fun fd member => by
    simp only [mem_range'_1] at member
    omega) final

/-! ### Closing by descriptor -/

theorem setCloseOnExec_runs (handle fd : Nat) (enabled : Bool) :
    Keeps (Runs relocks transfers) (setCloseOnExec handle fd enabled) := by
  refine keeps_of_keepsFrom fun kernel => keepsFrom_caller fun _ slot _ located => ?_
  refine keepsFrom_state (keepsFrom_lift fun index resolved => ?_)
  obtain ⟨fdBelow, used, -, -, -⟩ := System.resolveDescriptor_ok resolved
  exact keepsFrom_change (runs_of_move fun _ =>
    mark kernel enabled ⟨(System.resolveNamespace_ok located).1, fdBelow, used⟩)

theorem closeOnExec_runs (handle : Nat) : Keeps (Runs relocks transfers) (closeOnExec handle) := by
  refine keeps_of_keepsFrom fun kernel => keepsFrom_caller fun _ slot _ located => ?_
  exact closeEach_sync_runs handle _ (System.resolveNamespace_ok located).1 _
    (fun _ member => mem_range.mp member) kernel

theorem close_runs (handle fd : Nat) : Keeps (Runs relocks transfers) (close handle fd) := by
  refine keeps_of_keepsFrom fun kernel => keepsFrom_caller fun _ slot _ located => ?_
  refine keepsFrom_state (keepsFrom_lift fun index resolved => ?_)
  refine keepsFrom_bind (closeDescriptorAt_runs (System.resolveNamespace_ok located).1
    (System.resolveDescriptor_ok resolved).1 kernel) fun _ after _ => ?_
  exact syncDescriptorCount_runs handle after

theorem closeAll_runs (handle : Nat) : Keeps (Runs relocks transfers) (closeAll handle) := by
  refine keeps_of_keepsFrom fun kernel => keepsFrom_caller fun _ slot _ located => ?_
  exact closeEach_sync_runs handle _ (System.resolveNamespace_ok located).1 _
    (fun _ member => mem_range.mp member) kernel

/-! ### Reading and writing -/

theorem readTerminal_runs (handle length : Nat) :
    Keeps (Runs relocks transfers) (readTerminal handle length) := by
  refine keeps_state_bind fun kernel => ?_
  split
  · exact keeps_pure _
  · rename_i terminal _
    refine keeps_bind (inProcesses_runs (readTerminal_calm terminal handle length)) fun result => ?_
    have stored (after : RuntimeTty.Tty) : Keeps (Runs relocks transfers)
        (changeSystem fun system => { system with terminalBackend := some after }) :=
      keeps_change fun start => runs_of_move fun sound =>
        outside start _ _ _ (heldKept_of_steady sound.linked (refl _)) (refl _)
    refine keeps_bind (stored _) fun _ => ?_
    split <;> exact keeps_pure _

theorem readVfs_runs (description : OpenDescription) (length : Nat) (tick : Option Nat) :
    Keeps (Runs relocks transfers) (readVfs description length tick) :=
  keeps_bind (inVfs_runs (Vfs.readOpenInternal_steady _ _ _ _)) fun _ =>
    keeps_ite (keeps_pure _) (keeps_pure _)

theorem readWatch_runs (index length : Nat) :
    Keeps (Runs relocks transfers) (readWatch index length) := by
  refine keeps_failWhen_bind fun _ => keeps_bind keeps_state fun kernel => ?_
  refine keeps_bind (keeps_change fun start => runs_of_move fun _ => watch start _) fun _ => ?_
  exact keeps_lift_bind fun _ => keeps_bind (keeps_failWhen _ _) fun _ => keeps_pure _

/-- Falling asleep for a cause adds no other sleeper. -/
theorem block_calmBut {reason : WaitReason} (handle target : Nat) :
    Keeps (CalmBut reason target) (Table.block handle reason target) :=
  fun _ _ _ _ _ asleep => (block_asleep asleep).imp_right fun caller => ⟨caller.1, caller.2.1⟩

theorem wakeMatching_nobody (table : Table) (reason : WaitReason) (target : Nat) :
    Nobody (table.wakeMatching reason target true).2 reason target :=
  fun _ asleep => (wakeMatching_asleep asleep).2 ⟨rfl, rfl⟩

theorem readPipe_runs (handle length : Nat) (description : OpenDescription) :
    Keeps (Runs relocks True) (readPipe handle length description) := by
  refine keeps_of_keepsFrom fun kernel => keepsFrom_state ?_
  refine keepsFrom_lift fun pipe resolved => keepsFrom_ite (fun _ => ?_) fun empty => ?_
  · exact runs_of_move fun _ => Move.readPipe kernel length trivial
      (wakeMatching_calm kernel.processes .pipeWrite
        (pipeWaitKey pipe (kernel.system.pipes pipe).generation))
      (wakeMatching_nobody _ _ _)
  · refine keepsFrom_ite (fun _ => keepsFrom_pure _) fun written => ?_
    obtain ⟨below, live, -, -⟩ := System.resolvePipe_ok resolved
    refine keepsFrom_bind ?_ fun _ _ _ => keepsFrom_pure _
    exact runs_of_move fun _ => awaitBytes kernel below live (not_not.mp empty) written
      (block_calmBut _ _ kernel.processes)

theorem readInternal_runs (handle fd length : Nat) (tick : Option Nat) :
    Keeps (Runs relocks True) (readInternal handle fd length tick) := by
  refine keeps_of_keepsFrom fun kernel => keepsFrom_caller fun _ slot _ _ => ?_
  refine keepsFrom_state (keepsFrom_lift fun index _ => keepsFrom_failWhen fun _ => ?_)
  refine keepsFrom_ite (fun _ => keepsFrom_pure _) fun _ => ?_
  split
  · exact readTerminal_runs _ _ kernel
  · exact keepsFrom_fail _
  · exact keepsFrom_fail _
  · exact readVfs_runs _ _ _ kernel
  · exact readWatch_runs _ _ kernel
  · exact readPipe_runs _ _ _ kernel
  · exact keepsFrom_fail _

theorem writePipe_runs (handle : Nat) (bytes : Bytes) (description : OpenDescription) :
    Keeps (Runs relocks True) (writePipe handle bytes description) := by
  refine keeps_of_keepsFrom fun kernel => keepsFrom_state ?_
  refine keepsFrom_lift fun pipe resolved => keepsFrom_failWhen fun read => ?_
  refine keepsFrom_ite (fun full => ?_) fun _ => ?_
  · obtain ⟨below, live, -, -⟩ := System.resolvePipe_ok resolved
    refine keepsFrom_bind ?_ fun _ _ _ => keepsFrom_pure _
    exact runs_of_move fun _ => awaitRoom kernel below live full read
      (block_calmBut _ _ kernel.processes)
  · exact runs_of_move fun _ => Move.writePipe kernel bytes trivial
      (wakeMatching_calm kernel.processes .pipeRead
        (pipeWaitKey pipe (kernel.system.pipes pipe).generation))
      (wakeMatching_nobody _ _ _)

theorem write_runs (handle fd : Nat) (bytes : Bytes) (tick : Nat) :
    Keeps (Runs relocks True) (write handle fd bytes tick) := by
  refine keeps_of_keepsFrom fun kernel => keepsFrom_caller fun _ slot _ _ => ?_
  refine keepsFrom_state (keepsFrom_lift fun index _ => keepsFrom_failWhen fun _ => ?_)
  refine keepsFrom_ite (fun _ => keepsFrom_pure _) fun _ => ?_
  split
  · exact keepsFrom_pure _
  · exact keepsFrom_fail _
  · exact keepsFrom_fail _
  · exact keepsFrom_fail _
  · exact keeps_bind (inVfs_runs (Vfs.writeOpen_steady _ _ _ _)) (fun _ => keeps_pure _) kernel
  · exact writePipe_runs _ _ _ kernel
  · exact keepsFrom_fail _

end Kernel

end ZigOs.RuntimeFd
