/-
This file keeps the books of the descriptor system: how many descriptors name an
open description, how many descriptions are an end of a pipe, and which handles
of the filesystem are held. The books balance when every stored count is the
counted one. The file proves what each primitive change of the tables does to
them; the calls are composed from these changes.
-/

import ZigOs.RuntimeFd.System
import ZigOs.RuntimeVfs.Handles
import ZigOs.RuntimeProcess.Sleepers

namespace ZigOs.RuntimeFd

open Scan RuntimeProcess RuntimeVfs Function OpenDescription Kernel

/-- The descriptor names the description. -/
def Descriptor.names (descriptor : Descriptor) (index : Nat) : Bool :=
  descriptor.used && descriptor.openIndex == index

/-- The description is this end of this pipe. -/
def OpenDescription.endOf (description : OpenDescription) (kind : DescriptionKind)
    (pipe generation : Nat) : Bool :=
  description.used && description.kind == kind && description.resourceIndex == pipe &&
    description.resourceGeneration == generation

/-- The kinds of a pipe's two ends. -/
def DescriptionKind.isPipe : DescriptionKind → Bool
  | .pipeRead | .pipeWrite => true
  | _ => false

/-- A pipe with one end less. -/
def Pipe.dropEnd (kind : DescriptionKind) (pipe : Pipe) : Pipe :=
  match kind with
  | .pipeRead => Pipe.releaseIfUnused { pipe with readers := pipe.readers - 1 }
  | .pipeWrite => Pipe.releaseIfUnused { pipe with writers := pipe.writers - 1 }
  | _ => pipe

/-- The number of descriptors of a namespace that name the description. -/
def Namespace.namedBy (entry : Namespace) (index : Nat) : Nat :=
  countIndex maximumDescriptorsPerProcess fun fd => (entry.descriptors fd).names index

theorem Namespace.namedBy_update (entry : Namespace) {fd : Nat} (descriptor : Descriptor)
    (fdBelow : fd < maximumDescriptorsPerProcess) (index : Nat) :
    ({ entry with descriptors := update entry.descriptors fd descriptor
        } : Namespace).namedBy index + ((entry.descriptors fd).names index).toNat =
      entry.namedBy index + (descriptor.names index).toNat := by
  have row := countIndex_change (fun other => (entry.descriptors other).names index)
    (fun other => (update entry.descriptors fd descriptor other).names index)
    fdBelow fun other _ different => by rw [update_of_ne different]
  rwa [update_self] at row

namespace System

/-- The number of descriptors, in all namespaces, that name the description. -/
@[irreducible] def namedBy (system : System) (index : Nat) : Nat :=
  ∑ slot ∈ Finset.range maximumProcesses, (system.namespaces slot).namedBy index

/-- The number of descriptions that are this end of the current pipe in the slot. -/
def ends (system : System) (kind : DescriptionKind) (pipe : Nat) : Nat :=
  countIndex maximumOpenDescriptions fun index =>
    (system.openDescriptions index).endOf kind pipe (system.pipes pipe).generation

/-- References are counted right, and nothing names an unused description. -/
structure Referenced (system : System) : Prop where
  counted : ∀ index < maximumOpenDescriptions, (system.openDescriptions index).used = true →
    (system.openDescriptions index).references = system.namedBy index ∧
      (system.openDescriptions index).references ≠ 0
  unnamed : ∀ index < maximumOpenDescriptions, (system.openDescriptions index).used = false →
    system.namedBy index = 0
  bounded : ∀ slot < maximumProcesses, ∀ fd < maximumDescriptorsPerProcess,
    ((system.namespaces slot).descriptors fd).used = true →
      ((system.namespaces slot).descriptors fd).openIndex < maximumOpenDescriptions
  vacant : ∀ slot < maximumProcesses, (system.namespaces slot).used = false →
    ∀ fd < maximumDescriptorsPerProcess, ((system.namespaces slot).descriptors fd).used = false

/-- The ends of every pipe are counted right, and every end belongs to a live pipe. -/
structure PipesCounted (system : System) : Prop where
  readers : ∀ pipe < maximumPipes, (system.pipes pipe).readers = system.ends .pipeRead pipe
  writers : ∀ pipe < maximumPipes, (system.pipes pipe).writers = system.ends .pipeWrite pipe
  live : ∀ index < maximumOpenDescriptions, (system.openDescriptions index).used = true →
    (system.openDescriptions index).kind.isPipe = true →
      (system.openDescriptions index).resourceIndex < maximumPipes ∧
      (system.pipes (system.openDescriptions index).resourceIndex).used = true ∧
      (system.pipes (system.openDescriptions index).resourceIndex).generation =
        (system.openDescriptions index).resourceGeneration

end System

/-- Every description that holds a handle owns it under its own identity, and it resolves. -/
def HandlesHeld (system : System) (vfs : Vfs) : Prop :=
  ∀ index < maximumOpenDescriptions, (system.openDescriptions index).used = true →
    (system.openDescriptions index).holdsHandle = true →
      (system.openDescriptions index).vfsOwner =
        makeOpenId index (system.openDescriptions index).generation ∧
      ∃ target, vfs.inode (system.openDescriptions index).vfsOwner
        (system.openDescriptions index).vfsHandle = some target

/-- The filesystem moves on and every handle that a description holds stays. -/
structure HeldKept (system : System) (before after : Vfs) : Prop where
  linked : after.NamesLinked
  kept : ∀ index < maximumOpenDescriptions, (system.openDescriptions index).used = true →
    (system.openDescriptions index).holdsHandle = true → ∀ target,
      before.inode (system.openDescriptions index).vfsOwner
          (system.openDescriptions index).vfsHandle = some target →
        after.inode (system.openDescriptions index).vfsOwner
          (system.openDescriptions index).vfsHandle = some target

/-- The books balance. -/
structure Conserved (kernel : Kernel) : Prop where
  referenced : kernel.system.Referenced
  pipes : kernel.system.PipesCounted
  handles : HandlesHeld kernel.system kernel.vfs
  linked : kernel.vfs.NamesLinked

/-! ### Counting the names of a description -/

namespace System

variable {slot : Nat}

/-- Changing one namespace changes the counts by what its descriptors named and name now. -/
theorem namedBy_modifyNamespace (system : System) (step : Namespace → Namespace)
    (slotBelow : slot < maximumProcesses) (index : Nat) :
    (system.modifyNamespace slot step).namedBy index + (system.namespaces slot).namedBy index =
      system.namedBy index + (step (system.namespaces slot)).namedBy index := by
  have total := sum_change (fun other => (system.namespaces other).namedBy index)
    (fun other => ((system.modifyNamespace slot step).namespaces other).namedBy index)
    slotBelow fun other _ different => by simp [modifyNamespace, different]
  have target : (system.modifyNamespace slot step).namespaces slot = step (system.namespaces slot) := by
    simp [modifyNamespace]
  simpa only [target, namedBy] using total

/-- Changing one descriptor changes the counts by what it named and what it names now. -/
theorem namedBy_setDescriptor (system : System) {fd : Nat} (descriptor : Descriptor)
    (slotBelow : slot < maximumProcesses) (fdBelow : fd < maximumDescriptorsPerProcess)
    (index : Nat) : (system.setDescriptor slot fd descriptor).namedBy index +
        (((system.namespaces slot).descriptors fd).names index).toNat =
      system.namedBy index + (descriptor.names index).toNat := by
  have row := (system.namespaces slot).namedBy_update descriptor fdBelow index
  have total := namedBy_modifyNamespace system (fun entry =>
    { entry with descriptors := update entry.descriptors fd descriptor }) slotBelow index
  unfold setDescriptor
  omega

variable {system other : System}

theorem namedBy_congr (same : other.namespaces = system.namespaces)
    (index : Nat) : other.namedBy index = system.namedBy index := by
  unfold namedBy
  rw [same]

variable {index : Nat}

theorem namedBy_pos {fd : Nat} (slotBelow : slot < maximumProcesses)
    (fdBelow : fd < maximumDescriptorsPerProcess)
    (names : ((system.namespaces slot).descriptors fd).names index = true) :
    0 < system.namedBy index := by
  have row : 0 < (system.namespaces slot).namedBy index :=
    countIndex_pos (fun fd => ((system.namespaces slot).descriptors fd).names index) fdBelow names
  refine Nat.pos_of_ne_zero fun nothing => ?_
  simp only [namedBy, Finset.sum_eq_zero_iff] at nothing
  exact row.ne' (nothing slot (Finset.mem_range.mpr slotBelow))

@[simp] theorem modifyDescription_self (system : System) (index : Nat)
    (step : OpenDescription → OpenDescription) :
    (system.modifyDescription index step).openDescriptions index =
      step (system.openDescriptions index) := by
  simp [modifyDescription]

theorem modifyDescription_other (system : System) {other : Nat}
    (step : OpenDescription → OpenDescription) (different : other ≠ index) :
    (system.modifyDescription index step).openDescriptions other = system.openDescriptions other := by
  simp [modifyDescription, different]

/-- A change of one description relates every description to what it became. -/
theorem modifyDescription_forall (system : System) (index : Nat)
    (step : OpenDescription → OpenDescription)
    {relation : OpenDescription → OpenDescription → Prop} (same : ∀ entry, relation entry entry)
    (changed : ∀ entry, relation entry (step entry)) (other : Nat) :
    relation (system.openDescriptions other)
      ((system.modifyDescription index step).openDescriptions other) := by
  obtain rfl | here := eq_or_ne other index
  · rw [modifyDescription_self]
    exact changed _
  · rw [modifyDescription_other system step here]
    exact same _

/-! ### References -/

/-- What a used description is referenced by; an unused one is not referenced. -/
def referencesOf (system : System) (index : Nat) : Nat :=
  if (system.openDescriptions index).used then (system.openDescriptions index).references else 0

theorem Referenced.referencesOf (sound : system.Referenced)
    (below : index < maximumOpenDescriptions) : system.referencesOf index = system.namedBy index := by
  unfold System.referencesOf
  split
  · rename_i used
    exact (sound.counted index below used).1
  · rename_i unused
    exact (sound.unnamed index below (by simpa using unused)).symm

/-- A descriptor that names a description is replaced by one that names it too or names nothing,
and the description's count follows. -/
theorem Referenced.change {system : System} (sound : system.Referenced) {slot fd index : Nat}
    (descriptor : Descriptor) (step : OpenDescription → OpenDescription)
    (slotBelow : slot < maximumProcesses) (fdBelow : fd < maximumDescriptorsPerProcess)
    (indexBelow : index < maximumOpenDescriptions)
    (slotUsed : descriptor.used = true → (system.namespaces slot).used = true)
    (old : ((system.namespaces slot).descriptors fd).used = true →
      ((system.namespaces slot).descriptors fd).openIndex = index)
    (new : descriptor.used = true → descriptor.openIndex = index)
    (balance : (step (system.openDescriptions index)).used = true →
      (step (system.openDescriptions index)).references +
          ((system.namespaces slot).descriptors fd).used.toNat =
        system.referencesOf index + descriptor.used.toNat ∧
      (step (system.openDescriptions index)).references ≠ 0)
    (gone : (step (system.openDescriptions index)).used = false →
      ((system.namespaces slot).descriptors fd).used.toNat =
        system.referencesOf index + descriptor.used.toNat) :
    ((system.modifyDescription index step).setDescriptor slot fd descriptor).Referenced := by
  have names_self {entry : Descriptor} (only : entry.used = true → entry.openIndex = index) :
      (entry.names index).toNat = entry.used.toNat := by
    unfold Descriptor.names
    cases used : entry.used
    · rfl
    · simp [only used]
  have names_other {entry : Descriptor} (only : entry.used = true → entry.openIndex = index)
      {other : Nat} (different : other ≠ index) : (entry.names other).toNat = 0 := by
    unfold Descriptor.names
    cases used : entry.used
    · rfl
    · simp [only used, different.symm]
  have here := namedBy_setDescriptor (system.modifyDescription index step) descriptor slotBelow
    fdBelow index
  have elsewhere {other : Nat} (different : other ≠ index) :
      ((system.modifyDescription index step).setDescriptor slot fd descriptor).namedBy other =
        system.namedBy other := by
    have there := namedBy_setDescriptor (system.modifyDescription index step) descriptor slotBelow
      fdBelow other
    have oldApart := names_other old different
    have newApart := names_other new different
    have same : (system.modifyDescription index step).namedBy other = system.namedBy other :=
      namedBy_congr (by rfl) other
    have sameRow : (system.modifyDescription index step).namespaces = system.namespaces := rfl
    rw [sameRow] at there
    omega
  have before := sound.referencesOf indexBelow
  have unchanged : (system.modifyDescription index step).namedBy index = system.namedBy index :=
    namedBy_congr (by rfl) index
  have sameRow : (system.modifyDescription index step).namespaces = system.namespaces := rfl
  rw [sameRow, names_self new, names_self old, unchanged, ← before] at here
  refine ⟨fun other below used => ?_, fun other below unused => ?_, fun other otherBelow column
    columnBelow used => ?_, fun other otherBelow unused column columnBelow => ?_⟩
  · by_cases same : other = index
    · subst same
      have self : ((system.modifyDescription other step).setDescriptor slot fd
          descriptor).openDescriptions other = step (system.openDescriptions other) :=
        modifyDescription_self system other step
      rw [self] at used ⊢
      obtain ⟨balanced, nonzero⟩ := balance used
      exact ⟨by omega, nonzero⟩
    · have apart : ((system.modifyDescription index step).setDescriptor slot fd
          descriptor).openDescriptions other = system.openDescriptions other :=
        modifyDescription_other system step same
      rw [apart] at used ⊢
      rw [elsewhere same]
      exact sound.counted other below used
  · obtain rfl | same := eq_or_ne other index
    · have self : ((system.modifyDescription other step).setDescriptor slot fd
          descriptor).openDescriptions other = step (system.openDescriptions other) :=
        modifyDescription_self system other step
      rw [self] at unused
      have balanced := gone unused
      omega
    · have apart : ((system.modifyDescription index step).setDescriptor slot fd
          descriptor).openDescriptions other = system.openDescriptions other :=
        modifyDescription_other system step same
      rw [apart] at unused
      rw [elsewhere same]
      exact sound.unnamed other below unused
  · obtain rfl | same := eq_or_ne other slot
    · by_cases sameColumn : column = fd
      · subst sameColumn
        simp only [setDescriptor, modifyNamespace, update_self] at used ⊢
        rwa [new used]
      · simp only [setDescriptor, modifyNamespace, update_self,
          update_of_ne sameColumn] at used ⊢
        exact sound.bounded other otherBelow column columnBelow used
    · simp only [setDescriptor, modifyNamespace, update_of_ne same] at used ⊢
      exact sound.bounded other otherBelow column columnBelow used
  · by_cases same : other = slot
    · subst same
      simp only [setDescriptor, modifyNamespace, update_self] at unused ⊢
      obtain rfl | sameColumn := eq_or_ne column fd
      · simp only [update_self]
        by_contra used
        have inUse := slotUsed (by simpa using used)
        cases inUse.symm.trans unused
      · simp only [update_of_ne sameColumn]
        exact sound.vacant other otherBelow unused column columnBelow
    · simp only [setDescriptor, modifyNamespace, update_of_ne same] at unused ⊢
      exact sound.vacant other otherBelow unused column columnBelow

theorem Referenced.congr (sound : system.Referenced)
    (namespaces : other.namespaces = system.namespaces) (descriptions : ∀ index,
      (other.openDescriptions index).used = (system.openDescriptions index).used ∧
      (other.openDescriptions index).references = (system.openDescriptions index).references) :
    other.Referenced := by
  refine ⟨fun index below => ?_, fun index below => ?_, ?_, ?_⟩
  · rw [(descriptions index).1, (descriptions index).2, namedBy_congr namespaces]
    exact sound.counted index below
  · rw [(descriptions index).1, namedBy_congr namespaces]
    exact sound.unnamed index below
  · rw [namespaces]
    exact sound.bounded
  · rw [namespaces]
    exact sound.vacant

/-- A change that keeps what refers to a description keeps the counts. -/
theorem Referenced.annotate (sound : system.Referenced) (index : Nat)
    (step : OpenDescription → OpenDescription)
    (same : ∀ entry, (step entry).used = entry.used ∧ (step entry).references = entry.references) :
    (system.modifyDescription index step).Referenced := by
  refine sound.congr rfl fun other => ?_
  obtain rfl | here := eq_or_ne other index
  · rw [modifyDescription_self]
    exact same _
  · rw [modifyDescription_other system step here]
    exact ⟨rfl, rfl⟩

theorem Namespace.namedBy_of_empty {entry : Namespace}
    (empty : ∀ fd < maximumDescriptorsPerProcess, (entry.descriptors fd).used = false) (index : Nat) :
    entry.namedBy index = 0 :=
  countIndex_eq_zero.mpr fun fd below => by simp [Descriptor.names, empty fd below]

/-- An empty namespace may be replaced by another empty one. -/
theorem Referenced.modifyNamespace (sound : system.Referenced) (step : Namespace → Namespace)
    (slotBelow : slot < maximumProcesses) (empty : ∀ fd < maximumDescriptorsPerProcess,
      ((system.namespaces slot).descriptors fd).used = false)
    (stillEmpty : ∀ fd < maximumDescriptorsPerProcess,
      ((step (system.namespaces slot)).descriptors fd).used = false) :
    (system.modifyNamespace slot step).Referenced := by
  have same (index : Nat) : (system.modifyNamespace slot step).namedBy index =
      system.namedBy index := by
    have changed := namedBy_modifyNamespace system step slotBelow index
    rwa [Namespace.namedBy_of_empty empty, Namespace.namedBy_of_empty stillEmpty] at changed
  refine ⟨fun index below used => ?_, fun index below unused => ?_, fun other otherBelow fd below
    used => ?_, fun other otherBelow unused fd below => ?_⟩
  · rw [same]
    exact sound.counted index below used
  · rw [same]
    exact sound.unnamed index below unused
  · by_cases here : other = slot
    · subst here
      simp only [System.modifyNamespace, update_self, stillEmpty fd below] at used
      cases used
    · simp only [System.modifyNamespace, update_of_ne here] at used ⊢
      exact sound.bounded other otherBelow fd below used
  · obtain rfl | here := eq_or_ne other slot
    · simp only [System.modifyNamespace, update_self]
      exact stillEmpty fd below
    · simp only [System.modifyNamespace, update_of_ne here] at unused ⊢
      exact sound.vacant other otherBelow unused fd below

/-- Counting references for a whole namespace adds to each description what names it there. -/
theorem retainDescriptor_foldl (slot : Nat) (fds : List Nat) (system : System) :
    (fds.foldl (retainDescriptor slot) system).namespaces = system.namespaces ∧
    (fds.foldl (retainDescriptor slot) system).pipes = system.pipes ∧
    ∀ index, (fds.foldl (retainDescriptor slot) system).openDescriptions index =
      { system.openDescriptions index with
        references := (system.openDescriptions index).references +
          fds.countP fun fd => ((system.namespaces slot).descriptors fd).names index } := by
  induction fds generalizing system with
  | nil => exact ⟨rfl, rfl, fun index => rfl⟩
  | cons fd rest hypothesis =>
    rw [List.foldl_cons]
    obtain ⟨namespaces, pipes, descriptions⟩ :=
      hypothesis (retainDescriptor slot system fd)
    have rowSame : (retainDescriptor slot system fd).namespaces = system.namespaces := by
      unfold retainDescriptor
      dsimp only
      split <;> rfl
    have pipesSame : (retainDescriptor slot system fd).pipes = system.pipes := by
      unfold retainDescriptor
      dsimp only
      split <;> rfl
    refine ⟨namespaces.trans rowSame, pipes.trans pipesSame, fun index => ?_⟩
    rw [descriptions index, rowSame, List.countP_cons]
    unfold retainDescriptor Descriptor.names
    dsimp only
    cases used : ((system.namespaces slot).descriptors fd).used
    · simp
    · obtain rfl | here := eq_or_ne (((system.namespaces slot).descriptors fd).openIndex) index
      · simp [retain]
        omega
      · simp [modifyDescription_other _ _ (Ne.symm here), here]

/-- The namespace of a process with the descriptors of another one. -/
@[irreducible] def cloned (system : System) (source target handle : Nat) : System :=
  (List.range maximumDescriptorsPerProcess).foldl (retainDescriptor target)
    (system.modifyNamespace target fun _ =>
      { used := true
        ownerHandle := handle
        descriptors := (system.namespaces source).descriptors })

theorem cloned_facts (system : System) (source target handle : Nat) :
    (system.cloned source target handle).namespaces = update system.namespaces target
      { used := true
        ownerHandle := handle
        descriptors := (system.namespaces source).descriptors } ∧
    (system.cloned source target handle).pipes = system.pipes ∧
    ∀ index, (system.cloned source target handle).openDescriptions index =
      { system.openDescriptions index with
        references := (system.openDescriptions index).references +
          (system.namespaces source).namedBy index } := by
  obtain ⟨namespaces, pipes, descriptions⟩ := retainDescriptor_foldl target
    (List.range maximumDescriptorsPerProcess) (system.modifyNamespace target fun _ =>
      { used := true
        ownerHandle := handle
        descriptors := (system.namespaces source).descriptors })
  unfold cloned
  refine ⟨namespaces, pipes, fun index => (descriptions index).trans ?_⟩
  simp only [System.modifyNamespace, update_self]
  rfl

theorem Referenced.cloned (sound : system.Referenced) {source target handle : Nat}
    (sourceBelow : source < maximumProcesses) (targetBelow : target < maximumProcesses)
    (unused : (system.namespaces target).used = false) :
    (system.cloned source target handle).Referenced := by
  obtain ⟨namespaces, -, descriptions⟩ := cloned_facts system source target handle
  have named (index : Nat) : (system.cloned source target handle).namedBy index =
      system.namedBy index + (system.namespaces source).namedBy index := by
    have changed := namedBy_modifyNamespace system (fun _ =>
      { used := true
        ownerHandle := handle
        descriptors := (system.namespaces source).descriptors }) targetBelow index
    rw [Namespace.namedBy_of_empty (sound.vacant target targetBelow unused)] at changed
    exact (namedBy_congr namespaces index).trans changed
  have nothing {index : Nat} (below : index < maximumOpenDescriptions)
      (free : (system.openDescriptions index).used = false) :
      (system.namespaces source).namedBy index = 0 := by
    have zero := sound.unnamed index below free
    simp only [System.namedBy, Finset.sum_eq_zero_iff] at zero
    exact zero source (Finset.mem_range.mpr sourceBelow)
  refine ⟨fun index below used => ?_, fun index below free => ?_, fun slot slotBelow fd below
    used => ?_, fun slot slotBelow free fd below => ?_⟩
  · rw [descriptions] at used ⊢
    obtain ⟨counted, nonzero⟩ := sound.counted index below used
    rw [named, ← counted]
    exact ⟨rfl, by dsimp only; omega⟩
  · rw [descriptions] at free
    rw [named, sound.unnamed index below free, nothing below free]
  · rw [namespaces] at used ⊢
    by_cases here : slot = target
    · subst here
      rw [update_self] at used ⊢
      exact sound.bounded source sourceBelow fd below used
    · rw [update_of_ne here] at used ⊢
      exact sound.bounded slot slotBelow fd below used
  · rw [namespaces] at free ⊢
    obtain rfl | here := eq_or_ne slot target
    · rw [update_self] at free
      cases free
    · rw [update_of_ne here] at free ⊢
      exact sound.vacant slot slotBelow free fd below

/-! ### Ends of pipes -/

/-- Changing one description changes the count of the ends by what it was and what it is now. -/
theorem ends_modifyDescription (system : System) (step : OpenDescription → OpenDescription)
    (below : index < maximumOpenDescriptions) (kind : DescriptionKind) (pipe : Nat) :
    (system.modifyDescription index step).ends kind pipe +
        ((system.openDescriptions index).endOf kind pipe (system.pipes pipe).generation).toNat =
      system.ends kind pipe +
        ((step (system.openDescriptions index)).endOf kind pipe (system.pipes pipe).generation).toNat := by
  have changed := countIndex_change
    (fun other => (system.openDescriptions other).endOf kind pipe (system.pipes pipe).generation)
    (fun other => ((system.modifyDescription index step).openDescriptions other).endOf kind pipe
      (system.pipes pipe).generation)
    below fun other _ different => by rw [modifyDescription_other system step different]
  rwa [modifyDescription_self] at changed

variable {pipe : Nat}

theorem ends_congr (descriptions : ∀ kind pipe generation index,
      (other.openDescriptions index).endOf kind pipe generation =
        (system.openDescriptions index).endOf kind pipe generation) (kind : DescriptionKind)
    (generation : (other.pipes pipe).generation = (system.pipes pipe).generation) :
    other.ends kind pipe = system.ends kind pipe := by
  unfold ends
  simp only [descriptions, generation]

theorem endOf_isPipe {description : OpenDescription} {kind : DescriptionKind} {generation : Nat}
    (isEnd : description.endOf kind pipe generation = true) :
    description.used = true ∧ description.kind = kind ∧ description.resourceIndex = pipe ∧
      description.resourceGeneration = generation := by
  simpa [endOf, and_assoc] using isEnd

/-- The descriptions are the same ends of the same pipes. -/
def SameEnds (first second : OpenDescription) : Prop :=
  second.used = first.used ∧ second.kind = first.kind ∧
    second.resourceIndex = first.resourceIndex ∧
    second.resourceGeneration = first.resourceGeneration

theorem SameEnds.refl (description : OpenDescription) : SameEnds description description :=
  ⟨rfl, rfl, rfl, rfl⟩

theorem PipesCounted.congr (sound : system.PipesCounted) (pipes : other.pipes = system.pipes)
    (descriptions : ∀ index, SameEnds (system.openDescriptions index) (other.openDescriptions index))
    :
    other.PipesCounted := by
  have same (kind : DescriptionKind) (pipe : Nat) : other.ends kind pipe = system.ends kind pipe := by
    refine ends_congr (fun kind pipe generation index => ?_) kind (by rw [pipes])
    obtain ⟨used, sameKind, resource, generationOf⟩ := descriptions index
    simp only [endOf, used, sameKind, resource, generationOf]
  refine ⟨fun pipe below => ?_, fun pipe below => ?_, fun index below => ?_⟩
  · rw [pipes, same]
    exact sound.readers pipe below
  · rw [pipes, same]
    exact sound.writers pipe below
  · obtain ⟨used, sameKind, resource, generationOf⟩ := descriptions index
    rw [pipes, used, sameKind, resource, generationOf]
    exact sound.live index below

/-- A change that keeps what end a description is keeps the counts. -/
theorem PipesCounted.annotate (sound : system.PipesCounted) (index : Nat)
    (step : OpenDescription → OpenDescription) (same : ∀ entry, SameEnds entry (step entry)) :
    (system.modifyDescription index step).PipesCounted :=
  sound.congr rfl (modifyDescription_forall system index step SameEnds.refl same)

/-- A description that is no end of a pipe is replaced by another one that is none. -/
theorem PipesCounted.modifyDescription (sound : system.PipesCounted)
    (step : OpenDescription → OpenDescription) (below : index < maximumOpenDescriptions)
    (before : (system.openDescriptions index).used = true →
      (system.openDescriptions index).kind.isPipe = false)
    (after : (step (system.openDescriptions index)).used = true →
      (step (system.openDescriptions index)).kind.isPipe = false) :
    (system.modifyDescription index step).PipesCounted := by
  have noEnd {description : OpenDescription} (apart : description.used = true →
      description.kind.isPipe = false) {kind : DescriptionKind} (isPipe : kind.isPipe = true)
      (pipe generation : Nat) : description.endOf kind pipe generation = false := by
    by_contra isEnd
    obtain ⟨used, sameKind, -⟩ := endOf_isPipe (by simpa using isEnd)
    rw [← sameKind, apart used] at isPipe
    cases isPipe
  have same {kind : DescriptionKind} (isPipe : kind.isPipe = true) (pipe : Nat) :
      (system.modifyDescription index step).ends kind pipe = system.ends kind pipe := by
    have changed := ends_modifyDescription system step below kind pipe
    rwa [noEnd before isPipe, noEnd after isPipe] at changed
  refine ⟨fun pipe pipeBelow => ?_, fun pipe pipeBelow => ?_, fun other otherBelow used isPipe => ?_⟩
  · rw [same rfl]
    exact sound.readers pipe pipeBelow
  · rw [same rfl]
    exact sound.writers pipe pipeBelow
  · obtain rfl | here := eq_or_ne other index
    · rw [modifyDescription_self] at used isPipe
      rw [after used] at isPipe
      cases isPipe
    · rw [modifyDescription_other system step here] at used isPipe ⊢
      exact sound.live other otherBelow used isPipe

theorem releaseIfUnused_generation (pipe : Pipe) :
    pipe.releaseIfUnused.generation = pipe.generation := by
  unfold Pipe.releaseIfUnused
  split <;> rfl

theorem releaseIfUnused_counts (pipe : Pipe) :
    pipe.releaseIfUnused.readers = pipe.readers ∧ pipe.releaseIfUnused.writers = pipe.writers := by
  unfold Pipe.releaseIfUnused
  split
  · exact ⟨rfl, rfl⟩
  · rename_i none_left
    simp only [not_or, not_not] at none_left
    exact ⟨none_left.1.symm, none_left.2.symm⟩

theorem releaseIfUnused_used {pipe : Pipe} (ends : pipe.readers ≠ 0 ∨ pipe.writers ≠ 0) :
    pipe.releaseIfUnused = pipe := by
  unfold Pipe.releaseIfUnused
  rw [if_pos ends]

theorem dropEnd_generation (kind : DescriptionKind) (pipe : Pipe) :
    (pipe.dropEnd kind).generation = pipe.generation := by
  cases kind
  case pipeRead => exact releaseIfUnused_generation _
  case pipeWrite => exact releaseIfUnused_generation _
  all_goals rfl

/-- An end of a pipe goes away, with its description. -/
theorem PipesCounted.dropEnd (sound : system.PipesCounted) (below : index < maximumOpenDescriptions)
    (used : (system.openDescriptions index).used = true)
    (isPipe : (system.openDescriptions index).kind.isPipe = true) :
    ((system.clearDescription index).modifyPipe (system.openDescriptions index).resourceIndex
      (Pipe.dropEnd (system.openDescriptions index).kind)).PipesCounted := by
  obtain ⟨pipeBelow, pipeUsed, current⟩ := sound.live index below used isPipe
  generalize descriptionOf : system.openDescriptions index = description at *
  let after := (system.clearDescription index).modifyPipe description.resourceIndex
    (Pipe.dropEnd description.kind)
  have generations (pipe : Nat) : (after.pipes pipe).generation = (system.pipes pipe).generation := by
    obtain rfl | here := eq_or_ne pipe description.resourceIndex
    · simp only [after, modifyPipe, update_self]
      exact dropEnd_generation _ _
    · simp only [after, modifyPipe, update_of_ne here]
      rfl
  have ends_after (kind : DescriptionKind) (pipe : Nat) :
      after.ends kind pipe + (description.endOf kind pipe (system.pipes pipe).generation).toNat =
        system.ends kind pipe := by
    have changed := ends_modifyDescription system
      (fun old => { generation := old.generation }) below kind pipe
    have same : after.ends kind pipe = (system.clearDescription index).ends kind pipe := by
      apply ends_congr
      · exact fun _ _ _ _ => rfl
      · exact generations pipe
    rw [descriptionOf] at changed
    rw [same]
    simpa [endOf, clearDescription] using changed
  have isEnd (kind : DescriptionKind) (sameKind : description.kind = kind) :
      description.endOf kind description.resourceIndex
        (system.pipes description.resourceIndex).generation = true := by
    simp [endOf, used, sameKind, current]
  have noEnd {kind : DescriptionKind} {pipe : Nat}
      (different : description.kind ≠ kind ∨ description.resourceIndex ≠ pipe) (generation : Nat) :
      description.endOf kind pipe generation = false := by
    by_contra holds
    obtain ⟨-, sameKind, samePipe, -⟩ := endOf_isPipe (by simpa using holds)
    exact different.elim (· sameKind) (· samePipe)
  -- The counts of the pipe itself, whose slot may become free with its last end.
  have counts : (after.pipes description.resourceIndex).readers =
        after.ends .pipeRead description.resourceIndex ∧
      (after.pipes description.resourceIndex).writers =
        after.ends .pipeWrite description.resourceIndex := by
    have readersBefore := sound.readers _ pipeBelow
    have writersBefore := sound.writers _ pipeBelow
    have readersAfter := ends_after .pipeRead description.resourceIndex
    have writersAfter := ends_after .pipeWrite description.resourceIndex
    have target : after.pipes description.resourceIndex =
        (system.pipes description.resourceIndex).dropEnd description.kind := by
      simp [after, modifyPipe, clearDescription, System.modifyDescription]
    rw [target]
    cases kindOf : description.kind
    case pipeRead =>
      rw [isEnd _ kindOf] at readersAfter
      rw [noEnd (.inl (by simp [kindOf]))] at writersAfter
      simp only [Pipe.dropEnd, releaseIfUnused_counts, Bool.toNat_true, Bool.toNat_false] at *
      omega
    case pipeWrite =>
      rw [isEnd _ kindOf] at writersAfter
      rw [noEnd (.inl (by simp [kindOf]))] at readersAfter
      simp only [Pipe.dropEnd, releaseIfUnused_counts, Bool.toNat_true, Bool.toNat_false] at *
      omega
    all_goals simp [kindOf, DescriptionKind.isPipe] at isPipe
  have others {pipe : Nat} (different : pipe ≠ description.resourceIndex) :
      after.pipes pipe = system.pipes pipe := by
    simp only [after, modifyPipe, update_of_ne different]
    rfl
  have endsOther {pipe : Nat} (different : pipe ≠ description.resourceIndex)
      (kind : DescriptionKind) : after.ends kind pipe = system.ends kind pipe := by
    have changed := ends_after kind pipe
    rwa [noEnd (.inr (Ne.symm different))] at changed
  refine ⟨fun pipe below' => ?_, fun pipe below' => ?_, fun other otherBelow otherUsed otherPipe => ?_⟩
  · by_cases here : pipe = description.resourceIndex
    · subst here
      exact counts.1
    · change (after.pipes pipe).readers = after.ends _ pipe
      rw [others here, endsOther here]
      exact sound.readers pipe below'
  · obtain rfl | here := eq_or_ne pipe description.resourceIndex
    · exact counts.2
    · change (after.pipes pipe).writers = after.ends _ pipe
      rw [others here, endsOther here]
      exact sound.writers pipe below'
  · have apart : other ≠ index := by
      rintro rfl
      simp [modifyPipe, clearDescription, System.modifyDescription] at otherUsed
    have same : after.openDescriptions other = system.openDescriptions other :=
      modifyDescription_other system (fun old => { generation := old.generation }) apart
    change (after.openDescriptions other).used = true at otherUsed
    change (after.openDescriptions other).kind.isPipe = true at otherPipe
    change (after.openDescriptions other).resourceIndex < maximumPipes ∧
      (after.pipes (after.openDescriptions other).resourceIndex).used = true ∧
      (after.pipes (after.openDescriptions other).resourceIndex).generation =
        (after.openDescriptions other).resourceGeneration
    rw [same] at otherUsed otherPipe ⊢
    obtain ⟨otherPipeBelow, otherLive, otherCurrent⟩ := sound.live other otherBelow otherUsed otherPipe
    refine ⟨otherPipeBelow, ?_, (generations _).trans otherCurrent⟩
    by_cases here : (system.openDescriptions other).resourceIndex = description.resourceIndex
    · -- Another end keeps the pipe alive.
      have present : 0 < after.ends (system.openDescriptions other).kind description.resourceIndex := by
        refine countIndex_pos (fun candidate => (after.openDescriptions candidate).endOf
          (system.openDescriptions other).kind description.resourceIndex
          (after.pipes description.resourceIndex).generation) otherBelow ?_
        rw [same, generations]
        simp [endOf, otherUsed, here, ← otherCurrent]
      have nonzero : (after.pipes description.resourceIndex).readers ≠ 0 ∨
          (after.pipes description.resourceIndex).writers ≠ 0 := by
        rw [counts.1, counts.2]
        cases kindOf : (system.openDescriptions other).kind
        case pipeRead => exact .inl (by rw [kindOf] at present; omega)
        case pipeWrite => exact .inr (by rw [kindOf] at present; omega)
        all_goals simp [kindOf, DescriptionKind.isPipe] at otherPipe
      rw [here]
      have target : after.pipes description.resourceIndex =
          (system.pipes description.resourceIndex).dropEnd description.kind := by
        simp [after, modifyPipe, clearDescription, System.modifyDescription]
      rw [target] at nonzero ⊢
      cases kindOf : description.kind
      case pipeRead =>
        simp only [kindOf, Pipe.dropEnd, releaseIfUnused_counts] at nonzero ⊢
        rwa [releaseIfUnused_used nonzero]
      case pipeWrite =>
        simp only [kindOf, Pipe.dropEnd, releaseIfUnused_counts] at nonzero ⊢
        rwa [releaseIfUnused_used nonzero]
      all_goals simp [kindOf, DescriptionKind.isPipe] at isPipe
    · rwa [others here]

/-- Passing bytes through a pipe changes none of its ends. -/
theorem PipesCounted.transfer (sound : system.PipesCounted) (pipe : Nat) (step : Pipe → Pipe)
    (same : ∀ entry, (step entry).used = entry.used ∧ (step entry).generation = entry.generation ∧
      (step entry).readers = entry.readers ∧ (step entry).writers = entry.writers) :
    (system.modifyPipe pipe step).PipesCounted := by
  have fields (other : Nat) :
      ((system.modifyPipe pipe step).pipes other).used = (system.pipes other).used ∧
      ((system.modifyPipe pipe step).pipes other).generation = (system.pipes other).generation ∧
      ((system.modifyPipe pipe step).pipes other).readers = (system.pipes other).readers ∧
      ((system.modifyPipe pipe step).pipes other).writers = (system.pipes other).writers := by
    obtain rfl | here := eq_or_ne other pipe
    · simpa [modifyPipe] using same (system.pipes other)
    · simp [modifyPipe, here]
  have ends (kind : DescriptionKind) (other : Nat) :
      (system.modifyPipe pipe step).ends kind other = system.ends kind other := by
    apply ends_congr
    · exact fun _ _ _ _ => rfl
    · exact (fields other).2.1
  refine ⟨fun other below => ?_, fun other below => ?_, fun index below used isPipe => ?_⟩
  · rw [(fields other).2.2.1, ends]
    exact sound.readers other below
  · rw [(fields other).2.2.2, ends]
    exact sound.writers other below
  · obtain ⟨pipeBelow, live, current⟩ := sound.live index below used isPipe
    exact ⟨pipeBelow, (fields _).1.trans live, (fields _).2.1.trans current⟩

/-- Installing a description in a free slot adds the end that it is. -/
theorem ends_installDescription (system : System) (slot fd : Nat) (new : NewDescription)
    (closeOnExec : Bool) (below : index < maximumOpenDescriptions)
    (free : (system.openDescriptions index).used = false) (kind : DescriptionKind) (pipe : Nat) :
    (system.installDescription slot fd index new closeOnExec).ends kind pipe =
      system.ends kind pipe + ((new.description (nextGeneration
        (system.openDescriptions index).generation)).endOf kind pipe
          (system.pipes pipe).generation).toNat := by
  have changed := ends_modifyDescription system
    (fun old => new.description (nextGeneration old.generation)) below kind pipe
  have nothing : (system.openDescriptions index).endOf kind pipe (system.pipes pipe).generation =
      false := by
    simp [endOf, free]
  rwa [nothing] at changed

theorem installDescription_self (system : System) (slot fd index : Nat) (new : NewDescription)
    (closeOnExec : Bool) :
    (system.installDescription slot fd index new closeOnExec).openDescriptions index =
      new.description (nextGeneration (system.openDescriptions index).generation) :=
  modifyDescription_self system index fun old => new.description (nextGeneration old.generation)

theorem installDescription_other (system : System) (slot fd : Nat) {other : Nat}
    (new : NewDescription) (closeOnExec : Bool) (different : other ≠ index) :
    (system.installDescription slot fd index new closeOnExec).openDescriptions other =
      system.openDescriptions other :=
  modifyDescription_other system (fun old => new.description (nextGeneration old.generation)) different

/-- A new pipe has one reader and one writer. -/
theorem PipesCounted.installPipe {system : System} (sound : system.PipesCounted)
    {slot readFd writeFd readIndex writeIndex pipe : Nat} (pipeBelow : pipe < maximumPipes)
    (freePipe : (system.pipes pipe).used = false)
    (readBelow : readIndex < maximumOpenDescriptions)
    (writeBelow : writeIndex < maximumOpenDescriptions)
    (freeRead : (system.openDescriptions readIndex).used = false)
    (freeWrite : (system.openDescriptions writeIndex).used = false)
    (apart : writeIndex ≠ readIndex) :
    (installPipe system slot readFd writeFd readIndex writeIndex pipe).PipesCounted := by
  let generation := nextGeneration (system.pipes pipe).generation
  let created := system.modifyPipe pipe fun _ => { used := true, generation, readers := 1, writers := 1 }
  let readEnd : NewDescription :=
    { kind := .pipeRead
      readable := true
      writable := false
      resourceIndex := pipe
      resourceGeneration := generation }
  let writeEnd : NewDescription :=
    { kind := .pipeWrite
      readable := false
      writable := true
      resourceIndex := pipe
      resourceGeneration := generation }
  let half := created.installDescription slot readFd readIndex readEnd false
  let final := half.installDescription slot writeFd writeIndex writeEnd false
  change final.PipesCounted
  have pipeSelf : created.pipes pipe =
      { used := true, generation, readers := 1, writers := 1 } := by
    simp [created, modifyPipe]
  have pipeOther {other : Nat} (different : other ≠ pipe) :
      created.pipes other = system.pipes other := by
    simp [created, modifyPipe, different]
  have stillFree : (half.openDescriptions writeIndex).used = false := by
    rwa [installDescription_other created slot readFd readEnd false apart]
  have ends_final (kind : DescriptionKind) (other : Nat) : final.ends kind other =
      created.ends kind other +
        ((readEnd.description (nextGeneration (created.openDescriptions readIndex).generation)).endOf
          kind other (created.pipes other).generation).toNat +
        ((writeEnd.description (nextGeneration (half.openDescriptions writeIndex).generation)).endOf
          kind other (created.pipes other).generation).toNat := by
    rw [ends_installDescription half slot writeFd writeEnd false writeBelow stillFree,
      ends_installDescription created slot readFd readEnd false readBelow freeRead]
    rfl
  have none_before {kind : DescriptionKind} (isPipe : kind.isPipe = true) :
      created.ends kind pipe = 0 := by
    refine countIndex_eq_zero.mpr fun index below => ?_
    by_contra isEnd
    obtain ⟨used, sameKind, samePipe, -⟩ := endOf_isPipe (by simpa using isEnd)
    change (system.openDescriptions index).used = true at used
    change (system.openDescriptions index).kind = kind at sameKind
    change (system.openDescriptions index).resourceIndex = pipe at samePipe
    have alive := (sound.live index below used (by rw [sameKind]; exact isPipe)).2.1
    rw [samePipe, freePipe] at alive
    cases alive
  have same_before {other : Nat} (different : other ≠ pipe) (kind : DescriptionKind) :
      created.ends kind other = system.ends kind other := by
    apply ends_congr
    · exact fun _ _ _ _ => rfl
    · rw [pipeOther different]
  have same_after {other : Nat} (different : other ≠ pipe) (kind : DescriptionKind) :
      final.ends kind other = system.ends kind other := by
    have elsewhere : (pipe == other) = false := beq_false_of_ne different.symm
    rw [ends_final, same_before different]
    simp [endOf, NewDescription.description, readEnd, writeEnd, elsewhere]
  refine ⟨fun other below => ?_, fun other below => ?_, fun index below => ?_⟩
  · by_cases here : other = pipe
    · subst here
      change (created.pipes other).readers = final.ends _ other
      rw [ends_final, none_before rfl, pipeSelf]
      simp [endOf, NewDescription.description, readEnd, writeEnd]
    · change (created.pipes other).readers = final.ends _ other
      rw [pipeOther here, same_after here]
      exact sound.readers other below
  · obtain rfl | here := eq_or_ne other pipe
    · change (created.pipes other).writers = final.ends _ other
      rw [ends_final, none_before rfl, pipeSelf]
      simp [endOf, NewDescription.description, readEnd, writeEnd]
    · change (created.pipes other).writers = final.ends _ other
      rw [pipeOther here, same_after here]
      exact sound.writers other below
  · change (final.openDescriptions index).used = true →
      (final.openDescriptions index).kind.isPipe = true →
      (final.openDescriptions index).resourceIndex < maximumPipes ∧
      (created.pipes (final.openDescriptions index).resourceIndex).used = true ∧
      (created.pipes (final.openDescriptions index).resourceIndex).generation =
        (final.openDescriptions index).resourceGeneration
    by_cases isWrite : index = writeIndex
    · rw [isWrite, installDescription_self half slot writeFd writeIndex writeEnd false]
      intro _ _
      simp only [NewDescription.description, writeEnd, pipeSelf]
      exact ⟨pipeBelow, trivial, trivial⟩
    · rw [installDescription_other half slot writeFd writeEnd false isWrite]
      by_cases isRead : index = readIndex
      · rw [isRead, installDescription_self created slot readFd readIndex readEnd false]
        intro _ _
        simp only [NewDescription.description, readEnd, pipeSelf]
        exact ⟨pipeBelow, trivial, trivial⟩
      · rw [installDescription_other created slot readFd readEnd false isRead]
        change (system.openDescriptions index).used = true →
          (system.openDescriptions index).kind.isPipe = true →
          (system.openDescriptions index).resourceIndex < maximumPipes ∧
          (created.pipes (system.openDescriptions index).resourceIndex).used = true ∧
          (created.pipes (system.openDescriptions index).resourceIndex).generation =
            (system.openDescriptions index).resourceGeneration
        intro used isPipe
        have old := sound.live index below used isPipe
        have different : (system.openDescriptions index).resourceIndex ≠ pipe := by
          intro same
          rw [same, freePipe] at old
          cases old.2.1
        rwa [pipeOther different]

end System

/-! ### Handles -/

variable {generation : Nat}

theorem makeOpenId_index {first second : Nat} (firstBelow : first < maximumOpenDescriptions)
    (secondBelow : second < maximumOpenDescriptions) {other : Nat}
    (same : makeOpenId first generation = makeOpenId second other) : first = second := by
  change first < 96 at firstBelow
  change second < 96 at secondBelow
  unfold makeOpenId at same
  omega

/-- The descriptions hold the same handle in the same way. -/
def SameHandle (first second : OpenDescription) : Prop :=
  second.used = first.used ∧ second.kind = first.kind ∧ second.generation = first.generation ∧
    second.vfsOwner = first.vfsOwner ∧ second.vfsHandle = first.vfsHandle

theorem SameHandle.refl (description : OpenDescription) : SameHandle description description :=
  ⟨rfl, rfl, rfl, rfl, rfl⟩

variable {system : System} {vfs after : Vfs}

theorem HandlesHeld.congr {other : System} (held : HandlesHeld system vfs)
    (descriptions : ∀ index, SameHandle (system.openDescriptions index) (other.openDescriptions index))
    (kept : Vfs.HandlesKept (fun _ => True) vfs after) : HandlesHeld other after := by
  intro index below used holds
  obtain ⟨sameUsed, sameKind, sameGeneration, sameOwner, sameHandle⟩ := descriptions index
  have heldBefore : (system.openDescriptions index).holdsHandle = true := by
    simpa only [holdsHandle, sameKind, sameHandle] using holds
  obtain ⟨owner, target, found⟩ := held index below (sameUsed ▸ used) heldBefore
  rw [sameOwner, sameGeneration, sameHandle]
  exact ⟨owner, target, kept _ _ _ trivial found⟩

variable {before : Vfs}

theorem HeldKept.held (kept : HeldKept system before after)
    (held : HandlesHeld system before) : HandlesHeld system after := fun index below used holds => by
  obtain ⟨owner, target, found⟩ := held index below used holds
  exact ⟨owner, target, kept.kept index below used holds target found⟩

theorem heldKept_of_steady (linked : before.NamesLinked)
    (steady : Vfs.Steady before after) : HeldKept system before after :=
  ⟨(steady linked).1, fun _ _ _ _ target found => (steady linked).2 _ _ target trivial found⟩

/-- Handles that no description holds may go. -/
theorem heldKept_of_free (held : HandlesHeld system before) {index : Nat}
    (below : index < maximumOpenDescriptions) (free : (system.openDescriptions index).used = false)
    (linked : after.NamesLinked)
    (kept : Vfs.HandlesKept (· ≠ makeOpenId index generation) before after) :
    HeldKept system before after := by
  refine ⟨linked, fun other otherBelow used holds target found => kept _ _ _ (fun same => ?_) found⟩
  have owner := (held other otherBelow used holds).1
  have here := makeOpenId_index otherBelow below (owner.symm.trans same)
  rw [here, free] at used
  cases used

/-- A change that keeps the handle of a description keeps it held. -/
theorem HandlesHeld.annotate (held : HandlesHeld system vfs) (index : Nat)
    (step : OpenDescription → OpenDescription) (same : ∀ entry, SameHandle entry (step entry)) :
    HandlesHeld (system.modifyDescription index step) vfs :=
  held.congr (System.modifyDescription_forall system index step SameHandle.refl same)
    fun _ _ _ _ found => found

/-- One description changes; handles of the other descriptions have other owners and stay. -/
theorem HandlesHeld.change {system : System} {vfs after : Vfs} (held : HandlesHeld system vfs)
    {index : Nat} (step : OpenDescription → OpenDescription) {generation : Nat}
    (below : index < maximumOpenDescriptions)
    (kept : Vfs.HandlesKept (· ≠ makeOpenId index generation) vfs after)
    (here : (step (system.openDescriptions index)).used = true →
      (step (system.openDescriptions index)).holdsHandle = true →
        (step (system.openDescriptions index)).vfsOwner =
          makeOpenId index (step (system.openDescriptions index)).generation ∧
        ∃ target, after.inode (step (system.openDescriptions index)).vfsOwner
          (step (system.openDescriptions index)).vfsHandle = some target) :
    HandlesHeld (system.modifyDescription index step) after := by
  intro other otherBelow
  obtain rfl | same := eq_or_ne other index
  · rwa [System.modifyDescription_self]
  · rw [System.modifyDescription_other system step same]
    intro used holds
    obtain ⟨owner, target, found⟩ := held other otherBelow used holds
    refine ⟨owner, target, kept _ _ _ (fun isSame => same ?_) found⟩
    exact makeOpenId_index otherBelow below (owner.symm.trans isSame)

/-- A new description that holds no handle, or one that resolves. -/
theorem HandlesHeld.install {system : System} {vfs : Vfs} (held : HandlesHeld system vfs)
    (slot fd : Nat) {index : Nat} (new : NewDescription) (closeOnExec : Bool)
    (below : index < maximumOpenDescriptions)
    (here : (new.kind = .vfs ∨ new.kind = .terminal ∧ new.vfsHandle ≠ 0) →
      new.vfsOwner =
        makeOpenId index (nextGeneration (system.openDescriptions index).generation) ∧
      ∃ target, vfs.inode new.vfsOwner new.vfsHandle = some target) :
    HandlesHeld (system.installDescription slot fd index new closeOnExec) vfs := by
  have kept : Vfs.HandlesKept (· ≠ makeOpenId index 0) vfs vfs := fun _ _ _ _ found => found
  have changed := held.change (fun old => new.description (nextGeneration old.generation)) below kept
    fun _ holds => here (by
      simpa [holdsHandle, NewDescription.description] using holds)
  exact changed.congr (fun _ => SameHandle.refl _) fun _ _ _ _ found => found

end ZigOs.RuntimeFd
