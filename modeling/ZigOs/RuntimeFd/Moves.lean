/-
This file lists what a descriptor call can do, as moves of the whole kernel. A
move is one consistent change: a description is installed, shared, dropped or
retired with everything that hangs on it, bytes pass through a pipe, a process
falls asleep for a stated cause, or locks change under a stated condition. The
books balance after every move. Every call is a sequence of moves, so what each
move keeps every run keeps.
-/

import ZigOs.RuntimeFd.References

namespace ZigOs.RuntimeFd

open Scan RuntimeProcess RuntimeVfs System OpenDescription

/-- No process sleeps on this target. -/
def Nobody (processes : Table) (reason : WaitReason) (target : Nat) : Prop :=
  ∀ slot, ¬ processes.Asleep slot reason target

/-- New sleepers sleep on this target only. -/
def CalmBut (reason : WaitReason) (target : Nat) (before after : Table) : Prop :=
  ∀ slot other otherTarget, other.onDescriptor = true → after.Asleep slot other otherTarget →
    before.Asleep slot other otherTarget ∨ (other = reason ∧ otherTarget = target)

/-! ### Locks of two descriptions -/

/-- What the first description holds exclusively the second does not hold at all. -/
structure Compatible (first second : OpenDescription) : Prop where
  advisory : first.advisoryLock = .exclusive → second.advisoryLock = .none
  ranges : ∀ offset, Covers first.byteRangeLocks .exclusive offset →
    ∀ kind, ¬ Covers second.byteRangeLocks kind offset

/-- The inode that a description of the filesystem is open on. -/
def Kernel.inodeOf (kernel : Kernel) (index : Nat) : Option (Nat × Nat) :=
  if (kernel.system.openDescriptions index).used = true ∧
      (kernel.system.openDescriptions index).kind = .vfs then
    kernel.vfs.inode (kernel.system.openDescriptions index).vfsOwner
      (kernel.system.openDescriptions index).vfsHandle
  else none

/-- A description with other locks. -/
def OpenDescription.withLocks (description : OpenDescription) (advisory : AdvisoryLock)
    (ranges : List ByteRangeLock) : OpenDescription :=
  { description with advisoryLock := advisory, byteRangeLocks := ranges }

/-- Neither description holds what the other one excludes. -/
def Coexist (first second : OpenDescription) : Prop :=
  Compatible first second ∧ Compatible second first

/-- With these locks the description still coexists with whatever it coexists with on its inode. -/
structure Admissible (kernel : Kernel) (index : Nat) (advisory : AdvisoryLock)
    (ranges : List ByteRangeLock) : Prop where
  wellFormed : WellFormedLocks (kernel.system.openDescriptions index).byteRangeLocks →
    WellFormedLocks ranges
  others : WellFormedLocks (kernel.system.openDescriptions index).byteRangeLocks →
    ∀ other < maximumOpenDescriptions, other ≠ index → ∀ target,
      kernel.inodeOf index = some target → kernel.inodeOf other = some target →
        Coexist (kernel.system.openDescriptions index) (kernel.system.openDescriptions other) →
          Coexist ((kernel.system.openDescriptions index).withLocks advisory ranges)
            (kernel.system.openDescriptions other)

/-! ### The moves -/

namespace System

/-- The description that a descriptor names. -/
def described (system : System) (slot fd : Nat) : OpenDescription :=
  system.openDescriptions ((system.namespaces slot).descriptors fd).openIndex

/-- A descriptor is gone and its description has one reference less. -/
def dropped (system : System) (slot fd : Nat) : System :=
  (system.modifyDescription ((system.namespaces slot).descriptors fd).openIndex
    release).setDescriptor slot fd {}

/-- A descriptor is gone and with it its description and the end of a pipe it was. -/
def retired (system : System) (slot fd : Nat) : System :=
  ((system.clearDescription ((system.namespaces slot).descriptors fd).openIndex).setDescriptor slot
    fd {}).modifyPipe (system.described slot fd).resourceIndex
      (Pipe.dropEnd (system.described slot fd).kind)

end System

/-- The descriptor is in use. -/
structure Named (system : System) (slot fd : Nat) : Prop where
  slotBelow : slot < maximumProcesses
  fdBelow : fd < maximumDescriptorsPerProcess
  used : ((system.namespaces slot).descriptors fd).used = true

/-- A descriptor and a description that may be taken. -/
structure FreeSlots (system : System) (slot fd index : Nat) : Prop where
  slotBelow : slot < maximumProcesses
  slotUsed : (system.namespaces slot).used = true
  fdBelow : fd < maximumDescriptorsPerProcess
  fdFree : ((system.namespaces slot).descriptors fd).used = false
  indexBelow : index < maximumOpenDescriptions
  indexFree : (system.openDescriptions index).used = false

/-- The last reference goes: only the handle of the description is closed, and whoever may have
waited for what it held is awake. -/
structure Retires (kernel : Kernel) (slot fd : Nat) (vfs : Vfs) (processes : Table) : Prop where
  named : Named kernel.system slot fd
  last : (kernel.system.described slot fd).references = 1
  linked : vfs.NamesLinked
  kept : Vfs.HandlesKept (· ≠ makeOpenId ((kernel.system.namespaces slot).descriptors fd).openIndex
    (kernel.system.described slot fd).generation) kernel.vfs vfs
  calm : Calm kernel.processes processes
  readEnd : (kernel.system.described slot fd).kind = .pipeRead → Nobody processes .pipeWrite
    (pipeWaitKey (kernel.system.described slot fd).resourceIndex
      (kernel.system.described slot fd).resourceGeneration)
  writeEnd : (kernel.system.described slot fd).kind = .pipeWrite → Nobody processes .pipeRead
    (pipeWaitKey (kernel.system.described slot fd).resourceIndex
      (kernel.system.described slot fd).resourceGeneration)
  locks : ((kernel.system.described slot fd).advisoryLock ≠ .none ∨
      (kernel.system.described slot fd).byteRangeLocks ≠ []) →
    ∀ target, kernel.inodeOf ((kernel.system.namespaces slot).descriptors fd).openIndex =
      some target → Nobody processes .fileLock (fileLockWaitKey target.1 target.2)

/-- One consistent change. Locks change, and bytes pass through pipes or pipes are made, only where
the parameters allow it. -/
inductive Move (relocks transfers : Prop) : Kernel → Kernel → Prop
  /-- The filesystem and the processes move on, and the counters beside the tables. -/
  | outside (kernel : Kernel) {vfs : Vfs} {processes : Table} (terminal : Option RuntimeTty.Tty)
      (close : Option (Nat → Nat → Nat → Bool)) (calls : Nat)
      (held : HeldKept kernel.system kernel.vfs vfs)
      (calm : Calm kernel.processes processes) :
      Move relocks transfers kernel
        { system := { kernel.system with
            terminalBackend := terminal
            externalClose := close
            externalCalls := calls }
          vfs
          processes }
  /-- A reader falls asleep on an empty pipe that has a writer. -/
  | awaitBytes (kernel : Kernel) {processes : Table} {pipe : Nat} (below : pipe < maximumPipes)
      (live : (kernel.system.pipes pipe).used = true)
      (empty : (kernel.system.pipes pipe).count = 0)
      (written : (kernel.system.pipes pipe).writers ≠ 0)
      (calm : CalmBut .pipeRead (pipeWaitKey pipe (kernel.system.pipes pipe).generation)
        kernel.processes processes) :
      Move relocks transfers kernel { kernel with processes }
  /-- A writer falls asleep on a full pipe that has a reader. -/
  | awaitRoom (kernel : Kernel) {processes : Table} {pipe : Nat} (below : pipe < maximumPipes)
      (live : (kernel.system.pipes pipe).used = true)
      (full : (kernel.system.pipes pipe).count = pipeCapacity)
      (read : (kernel.system.pipes pipe).readers ≠ 0)
      (calm : CalmBut .pipeWrite (pipeWaitKey pipe (kernel.system.pipes pipe).generation)
        kernel.processes processes) :
      Move relocks transfers kernel { kernel with processes }
  /-- A process falls asleep on the locks of an inode. -/
  | awaitLock (kernel : Kernel) {processes : Table} (key : Nat) (allowed : relocks)
      (calm : CalmBut .fileLock key kernel.processes processes) :
      Move relocks transfers kernel { kernel with processes }
  /-- A descriptor is marked or unmarked. -/
  | mark (kernel : Kernel) {slot fd : Nat} (closeOnExec : Bool) (named : Named kernel.system slot fd) :
      Move relocks transfers kernel { kernel with
        system := kernel.system.setDescriptor slot fd
          { (kernel.system.namespaces slot).descriptors fd with closeOnExec } }
  /-- A watch moves on. -/
  | watch (kernel : Kernel) {index : Nat} (cursor : Nat) :
      Move relocks transfers kernel { kernel with
        system := kernel.system.modifyDescription index fun description =>
          { description with watchCursor := cursor } }
  /-- A process gets a namespace without descriptors. -/
  | bind (kernel : Kernel) {slot : Nat} (handle : Nat) (below : slot < maximumProcesses)
      (free : (kernel.system.namespaces slot).used = false) :
      Move relocks transfers kernel { kernel with
        system := kernel.system.modifyNamespace slot fun _ => { used := true, ownerHandle := handle } }
  /-- A process loses a namespace without descriptors. -/
  | unbind (kernel : Kernel) {slot : Nat} (below : slot < maximumProcesses)
      (empty : ∀ fd < maximumDescriptorsPerProcess,
        ((kernel.system.namespaces slot).descriptors fd).used = false) :
      Move relocks transfers kernel { kernel with system := kernel.system.modifyNamespace slot fun _ => {} }
  /-- A process inherits every descriptor of another. -/
  | clone (kernel : Kernel) {source target : Nat} (handle : Nat) (sourceBelow : source < maximumProcesses)
      (targetBelow : target < maximumProcesses)
      (free : (kernel.system.namespaces target).used = false) :
      Move relocks transfers kernel { kernel with system := kernel.system.cloned source target handle }
  /-- A new description under a new descriptor. -/
  | install (kernel : Kernel) {slot fd index : Nat} (new : NewDescription) (closeOnExec : Bool)
      (free : FreeSlots kernel.system slot fd index) (noPipe : new.kind.isPipe = false)
      (held : (new.kind = .vfs ∨ new.kind = .terminal ∧ new.vfsHandle ≠ 0) →
        new.vfsOwner = makeOpenId index
          (nextGeneration (kernel.system.openDescriptions index).generation) ∧
        ∃ target, kernel.vfs.inode new.vfsOwner new.vfsHandle = some target) :
      Move relocks transfers kernel { kernel with
        system := kernel.system.installDescription slot fd index new closeOnExec }
  /-- A new pipe with its two ends. -/
  | installPipe (kernel : Kernel) {slot readFd writeFd readIndex writeIndex pipe : Nat}
      (freeRead : FreeSlots kernel.system slot readFd readIndex)
      (freeWrite : FreeSlots kernel.system slot writeFd writeIndex) (fdApart : writeFd ≠ readFd)
      (indexApart : writeIndex ≠ readIndex) (allowed : transfers) (below : pipe < maximumPipes)
      (freePipe : (kernel.system.pipes pipe).used = false) :
      Move relocks transfers kernel { kernel with
        system := Kernel.installPipe kernel.system slot readFd writeFd readIndex writeIndex pipe }
  /-- One more descriptor for a description. -/
  | share (kernel : Kernel) {slot fd index : Nat} (slotBelow : slot < maximumProcesses)
      (slotUsed : (kernel.system.namespaces slot).used = true)
      (fdBelow : fd < maximumDescriptorsPerProcess)
      (fdFree : ((kernel.system.namespaces slot).descriptors fd).used = false)
      (indexBelow : index < maximumOpenDescriptions)
      (indexUsed : (kernel.system.openDescriptions index).used = true) :
      Move relocks transfers kernel { kernel with
        system := Kernel.shareDescription slot fd index kernel.system }
  /-- One descriptor less for a description that has others. -/
  | drop (kernel : Kernel) {slot fd : Nat} (named : Named kernel.system slot fd)
      (more : (kernel.system.described slot fd).references ≠ 1) :
      Move relocks transfers kernel { kernel with system := kernel.system.dropped slot fd }
  /-- The last descriptor of a description goes. -/
  | retire (kernel : Kernel) {slot fd : Nat} {vfs : Vfs} {processes : Table}
      (retires : Retires kernel slot fd vfs processes) :
      Move relocks transfers kernel { system := kernel.system.retired slot fd, vfs, processes }
  /-- Bytes leave a pipe, and its writers wake. -/
  | readPipe (kernel : Kernel) {processes : Table} {pipe : Nat} (length : Nat) (allowed : transfers)
      (calm : Calm kernel.processes processes)
      (awake : Nobody processes .pipeWrite
        (pipeWaitKey pipe (kernel.system.pipes pipe).generation)) :
      Move relocks transfers kernel { kernel with
        system := kernel.system.modifyPipe pipe fun entry => (entry.read length).2
        processes }
  /-- Bytes enter a pipe, and its readers wake. -/
  | writePipe (kernel : Kernel) {processes : Table} {pipe : Nat} (bytes : Bytes) (allowed : transfers)
      (calm : Calm kernel.processes processes)
      (awake : Nobody processes .pipeRead
        (pipeWaitKey pipe (kernel.system.pipes pipe).generation)) :
      Move relocks transfers kernel { kernel with
        system := kernel.system.modifyPipe pipe fun entry => (entry.write bytes).2
        processes }
  /-- A description holds other locks. -/
  | relock (kernel : Kernel) {index : Nat} (advisory : AdvisoryLock) (ranges : List ByteRangeLock)
      (allowed : relocks) (admissible : Admissible kernel index advisory ranges) :
      Move relocks transfers kernel { kernel with
        system := kernel.system.modifyDescription index
          (withLocks · advisory ranges) }

/-! ### The books balance after every move -/

/-- Installing a description gives it its only reference. -/
theorem System.Referenced.install {system : System} (sound : system.Referenced)
    {slot fd index : Nat} (new : NewDescription) (closeOnExec : Bool)
    (free : FreeSlots system slot fd index) :
    (system.installDescription slot fd index new closeOnExec).Referenced := by
  have none_yet : system.referencesOf index = 0 := by
    simp [System.referencesOf, free.indexFree]
  refine sound.change { used := true, openIndex := index, closeOnExec }
    (fun old => new.description (nextGeneration old.generation)) free.slotBelow free.fdBelow
    free.indexBelow (fun _ => free.slotUsed)
    (fun used => absurd (used.symm.trans free.fdFree) (by decide))
    (fun _ => rfl) (fun _ => ⟨?_, Nat.one_ne_zero⟩) (fun unused => nomatch unused)
  rw [none_yet, free.fdFree]
  rfl

/-- Slots that were free stay free when other slots are taken. -/
theorem FreeSlots.install {system : System} {slot fd index otherFd otherIndex : Nat}
    (new : NewDescription) (closeOnExec : Bool) (free : FreeSlots system slot otherFd otherIndex)
    (fdApart : otherFd ≠ fd) (indexApart : otherIndex ≠ index) :
    FreeSlots (system.installDescription slot fd index new closeOnExec) slot otherFd otherIndex := by
  refine ⟨free.slotBelow, ?_, free.fdBelow, ?_, free.indexBelow, ?_⟩
  · simpa [installDescription, setDescriptor, modifyNamespace,
      initializeDescription, modifyDescription] using free.slotUsed
  · simpa [installDescription, setDescriptor, modifyNamespace,
      initializeDescription, modifyDescription, fdApart] using free.fdFree
  · rw [installDescription_other system slot fd new closeOnExec indexApart]
    exact free.indexFree

theorem System.Referenced.installPipe {system : System} (sound : system.Referenced)
    {slot readFd writeFd readIndex writeIndex pipe : Nat}
    (freeRead : FreeSlots system slot readFd readIndex)
    (freeWrite : FreeSlots system slot writeFd writeIndex) (fdApart : writeFd ≠ readFd)
    (indexApart : writeIndex ≠ readIndex) :
    (Kernel.installPipe system slot readFd writeFd readIndex writeIndex pipe).Referenced := by
  let created := system.modifyPipe pipe fun _ =>
    { used := true
      generation := nextGeneration (system.pipes pipe).generation
      readers := 1
      writers := 1 }
  have createdSound : created.Referenced := sound.congr rfl fun _ => ⟨rfl, rfl⟩
  have createdRead : FreeSlots created slot readFd readIndex :=
    ⟨freeRead.slotBelow, freeRead.slotUsed, freeRead.fdBelow, freeRead.fdFree, freeRead.indexBelow,
      freeRead.indexFree⟩
  have createdWrite : FreeSlots created slot writeFd writeIndex :=
    ⟨freeWrite.slotBelow, freeWrite.slotUsed, freeWrite.fdBelow, freeWrite.fdFree,
      freeWrite.indexBelow, freeWrite.indexFree⟩
  exact (createdSound.install _ false createdRead).install _ false
    (createdWrite.install _ false fdApart indexApart)

section Conserved

variable {kernel : Kernel} (sound : Conserved kernel)
include sound

variable {slot fd : Nat}

/-- A used descriptor names a used description. -/
theorem Conserved.described_used (named : Named kernel.system slot fd) :
    ((kernel.system.namespaces slot).descriptors fd).openIndex < maximumOpenDescriptions ∧
      (kernel.system.described slot fd).used = true := by
  have below := sound.referenced.bounded slot named.slotBelow fd named.fdBelow named.used
  refine ⟨below, ?_⟩
  by_contra unused
  have nothing := sound.referenced.unnamed _ below (by simpa [System.described] using unused)
  have names : ((kernel.system.namespaces slot).descriptors fd).names
      ((kernel.system.namespaces slot).descriptors fd).openIndex = true := by
    simp [Descriptor.names, named.used]
  have something := namedBy_pos named.slotBelow named.fdBelow names
  omega

theorem Conserved.namespace_used (named : Named kernel.system slot fd) :
    (kernel.system.namespaces slot).used = true := by
  by_contra unused
  have free := sound.referenced.vacant slot named.slotBelow (by simpa using unused) fd named.fdBelow
  cases named.used.symm.trans free

theorem Conserved.referencesOf_described (named : Named kernel.system slot fd) :
    kernel.system.referencesOf ((kernel.system.namespaces slot).descriptors fd).openIndex =
        (kernel.system.described slot fd).references ∧
      (kernel.system.described slot fd).references ≠ 0 := by
  obtain ⟨below, used⟩ := sound.described_used named
  refine ⟨if_pos used, (sound.referenced.counted _ below used).2⟩

/-- Marking a descriptor changes no count. -/
theorem Conserved.mark (closeOnExec : Bool) (named : Named kernel.system slot fd) :
    (kernel.system.setDescriptor slot fd
      { (kernel.system.namespaces slot).descriptors fd with closeOnExec }).Referenced := by
  obtain ⟨below, used⟩ := sound.described_used named
  obtain ⟨references, nonzero⟩ := sound.referencesOf_described named
  have changed := sound.referenced.change
    { (kernel.system.namespaces slot).descriptors fd with closeOnExec }
    (fun description => description) named.slotBelow named.fdBelow below (fun _ => sound.namespace_used named) (fun _ => rfl)
    (fun _ => rfl) (fun _ => ⟨by rw [references]; rfl, nonzero⟩)
    (fun unused => absurd (used.symm.trans unused) (by decide))
  exact changed.congr rfl fun index => by
    by_cases here : index = ((kernel.system.namespaces slot).descriptors fd).openIndex
    · simp [setDescriptor, modifyNamespace, modifyDescription, here]
    · simp [setDescriptor, modifyNamespace, modifyDescription]

theorem Conserved.shareReferenced {index : Nat} (slotBelow : slot < maximumProcesses)
    (slotUsed : (kernel.system.namespaces slot).used = true)
    (fdBelow : fd < maximumDescriptorsPerProcess)
    (fdFree : ((kernel.system.namespaces slot).descriptors fd).used = false)
    (indexBelow : index < maximumOpenDescriptions)
    (indexUsed : (kernel.system.openDescriptions index).used = true) :
    (Kernel.shareDescription slot fd index kernel.system).Referenced := by
  have references : kernel.system.referencesOf index =
      (kernel.system.openDescriptions index).references := if_pos indexUsed
  refine sound.referenced.change { used := true, openIndex := index } retain
    slotBelow fdBelow indexBelow (fun _ => slotUsed)
    (fun used => absurd (used.symm.trans fdFree) (by decide)) (fun _ => rfl)
    (fun _ => ⟨?_, Nat.succ_ne_zero _⟩)
    (fun unused => absurd (indexUsed.symm.trans unused) (by decide))
  rw [references, fdFree]
  rfl

theorem Conserved.dropReferenced (named : Named kernel.system slot fd)
    (more : (kernel.system.described slot fd).references ≠ 1) :
    (kernel.system.dropped slot fd).Referenced := by
  obtain ⟨below, used⟩ := sound.described_used named
  obtain ⟨references, nonzero⟩ := sound.referencesOf_described named
  refine sound.referenced.change {} release named.slotBelow named.fdBelow below
    (fun used => nomatch used) (fun _ => rfl) (fun used => nomatch used) (fun _ => ?_)
    (fun unused => absurd (used.symm.trans unused) (by decide))
  rw [references, named.used]
  change (kernel.system.described slot fd).references - 1 + 1 =
      (kernel.system.described slot fd).references + 0 ∧
    (kernel.system.described slot fd).references - 1 ≠ 0
  omega

theorem Conserved.retireReferenced (named : Named kernel.system slot fd)
    (last : (kernel.system.described slot fd).references = 1) :
    (kernel.system.retired slot fd).Referenced := by
  obtain ⟨below, -⟩ := sound.described_used named
  obtain ⟨references, -⟩ := sound.referencesOf_described named
  have cleared := sound.referenced.change {} (fun old => { generation := old.generation })
    named.slotBelow named.fdBelow below (fun used => nomatch used) (fun _ => rfl)
    (fun used => nomatch used) (fun used => nomatch used)
    (fun _ => by rw [references, last, named.used]; rfl)
  exact cleared.congr rfl fun _ => ⟨rfl, rfl⟩

theorem Conserved.retirePipes (named : Named kernel.system slot fd) :
    (kernel.system.retired slot fd).PipesCounted := by
  obtain ⟨below, used⟩ := sound.described_used named
  by_cases isPipe : (kernel.system.described slot fd).kind.isPipe = true
  · exact (sound.pipes.dropEnd below used isPipe).congr rfl fun _ => ⟨rfl, rfl, rfl, rfl⟩
  · have cleared := sound.pipes.modifyDescription
      (fun old => { generation := old.generation }) below
      (fun _ => by simpa [System.described] using isPipe) (fun unused => nomatch unused)
    have samePipes : (kernel.system.retired slot fd).pipes = kernel.system.pipes := by
      have same : Pipe.dropEnd (kernel.system.described slot fd).kind = id := by
        cases kindOf : (kernel.system.described slot fd).kind
        case pipeRead => simp [kindOf, DescriptionKind.isPipe] at isPipe
        case pipeWrite => simp [kindOf, DescriptionKind.isPipe] at isPipe
        all_goals rfl
      simp [System.retired, modifyPipe, same, clearDescription,
        setDescriptor, modifyNamespace, modifyDescription]
    exact cleared.congr samePipes fun _ => ⟨rfl, rfl, rfl, rfl⟩

theorem Conserved.retireHandles {vfs : Vfs} {processes : Table}
    (retires : Retires kernel slot fd vfs processes) :
    HandlesHeld (kernel.system.retired slot fd) vfs := by
  obtain ⟨below, -⟩ := sound.described_used retires.named
  have cleared := sound.handles.change (fun old => { generation := old.generation }) below
    retires.kept (fun unused => nomatch unused)
  exact cleared.congr (fun _ => ⟨rfl, rfl, rfl, rfl, rfl⟩) fun _ _ _ _ found => found

end Conserved

theorem Move.conserved {relocks transfers : Prop} {before after : Kernel} (move : Move relocks transfers before after)
    (sound : Conserved before) : Conserved after := by
  have sameVfs : Vfs.HandlesKept (fun _ => True) before.vfs before.vfs := fun _ _ _ _ found => found
  cases move with
  | outside terminal close calls held calm =>
    exact ⟨sound.referenced.congr rfl fun _ => ⟨rfl, rfl⟩,
      sound.pipes.congr rfl fun _ => System.SameEnds.refl _, held.held sound.handles, held.linked⟩
  | awaitBytes => exact ⟨sound.referenced, sound.pipes, sound.handles, sound.linked⟩
  | awaitRoom => exact ⟨sound.referenced, sound.pipes, sound.handles, sound.linked⟩
  | awaitLock => exact ⟨sound.referenced, sound.pipes, sound.handles, sound.linked⟩
  | mark closeOnExec named =>
    exact ⟨sound.mark closeOnExec named, sound.pipes.congr rfl fun _ => System.SameEnds.refl _,
      sound.handles.congr (fun _ => SameHandle.refl _) sameVfs, sound.linked⟩
  | watch cursor =>
    let step (description : OpenDescription) := { description with watchCursor := cursor }
    exact ⟨sound.referenced.annotate _ step fun _ => ⟨rfl, rfl⟩,
      sound.pipes.annotate _ step fun _ => ⟨rfl, rfl, rfl, rfl⟩,
      sound.handles.annotate _ step fun _ => ⟨rfl, rfl, rfl, rfl, rfl⟩, sound.linked⟩
  | bind handle below free =>
    exact ⟨sound.referenced.modifyNamespace (fun _ => { used := true, ownerHandle := handle }) below
        (sound.referenced.vacant _ below free) fun _ _ => rfl,
      sound.pipes.congr rfl fun _ => System.SameEnds.refl _,
      sound.handles.congr (fun _ => SameHandle.refl _) sameVfs, sound.linked⟩
  | unbind below empty =>
    exact ⟨sound.referenced.modifyNamespace (fun _ => {}) below empty fun _ _ => rfl,
      sound.pipes.congr rfl fun _ => System.SameEnds.refl _,
      sound.handles.congr (fun _ => SameHandle.refl _) sameVfs, sound.linked⟩
  | @clone source target handle sourceBelow targetBelow free =>
    obtain ⟨-, pipes, descriptions⟩ := before.system.cloned_facts source target handle
    exact ⟨sound.referenced.cloned sourceBelow targetBelow free,
      sound.pipes.congr pipes fun index => by rw [descriptions]; exact ⟨rfl, rfl, rfl, rfl⟩,
      sound.handles.congr (fun index => by rw [descriptions]; exact ⟨rfl, rfl, rfl, rfl, rfl⟩)
        sameVfs, sound.linked⟩
  | install new closeOnExec free noPipe held =>
    have pipes := sound.pipes.modifyDescription
      (fun old => new.description (nextGeneration old.generation)) free.indexBelow
      (fun used => absurd (used.symm.trans free.indexFree) (by decide)) (fun _ => noPipe)
    exact ⟨sound.referenced.install new closeOnExec free,
      pipes.congr rfl fun _ => System.SameEnds.refl _,
      sound.handles.install _ _ new closeOnExec free.indexBelow held, sound.linked⟩
  | @installPipe slot readFd writeFd readIndex writeIndex pipe freeRead freeWrite fdApart indexApart
      allowed below freePipe =>
    have created : HandlesHeld (before.system.modifyPipe pipe fun _ =>
        { used := true
          generation := nextGeneration (before.system.pipes pipe).generation
          readers := 1
          writers := 1 }) before.vfs :=
      sound.handles.congr (fun _ => SameHandle.refl _) sameVfs
    exact ⟨sound.referenced.installPipe freeRead freeWrite fdApart indexApart,
      sound.pipes.installPipe below freePipe freeRead.indexBelow freeWrite.indexBelow
        freeRead.indexFree freeWrite.indexFree indexApart,
      (created.install _ _ _ false freeRead.indexBelow (by simp)).install _ _ _ false
        freeWrite.indexBelow (by simp), sound.linked⟩
  | share slotBelow slotUsed fdBelow fdFree indexBelow indexUsed =>
    exact ⟨sound.shareReferenced slotBelow slotUsed fdBelow fdFree indexBelow indexUsed,
      (sound.pipes.annotate _ retain fun _ => ⟨rfl, rfl, rfl, rfl⟩).congr rfl fun _ => System.SameEnds.refl _,
      (sound.handles.annotate _ retain fun _ => ⟨rfl, rfl, rfl, rfl, rfl⟩).congr
        (fun _ => SameHandle.refl _) sameVfs, sound.linked⟩
  | drop named more =>
    exact ⟨sound.dropReferenced named more,
      (sound.pipes.annotate _ release fun _ => ⟨rfl, rfl, rfl, rfl⟩).congr rfl fun _ => System.SameEnds.refl _,
      (sound.handles.annotate _ release fun _ => ⟨rfl, rfl, rfl, rfl, rfl⟩).congr
        (fun _ => SameHandle.refl _) sameVfs, sound.linked⟩
  | retire retires =>
    exact ⟨sound.retireReferenced retires.named retires.last, sound.retirePipes retires.named,
      sound.retireHandles retires, retires.linked⟩
  | readPipe length allowed calm awake =>
    exact ⟨sound.referenced.congr rfl fun _ => ⟨rfl, rfl⟩,
      sound.pipes.transfer _ (fun entry => (entry.read length).2) fun _ => ⟨rfl, rfl, rfl, rfl⟩,
      sound.handles.congr (fun _ => SameHandle.refl _) sameVfs, sound.linked⟩
  | writePipe bytes allowed calm awake =>
    exact ⟨sound.referenced.congr rfl fun _ => ⟨rfl, rfl⟩,
      sound.pipes.transfer _ (fun entry => (entry.write bytes).2) fun _ => ⟨rfl, rfl, rfl, rfl⟩,
      sound.handles.congr (fun _ => SameHandle.refl _) sameVfs, sound.linked⟩
  | relock advisory ranges allowed admissible =>
    let step (description : OpenDescription) := description.withLocks advisory ranges
    exact ⟨sound.referenced.annotate _ step fun _ => ⟨rfl, rfl⟩,
      sound.pipes.annotate _ step fun _ => ⟨rfl, rfl, rfl, rfl⟩,
      sound.handles.annotate _ step fun _ => ⟨rfl, rfl, rfl, rfl, rfl⟩, sound.linked⟩

end ZigOs.RuntimeFd
