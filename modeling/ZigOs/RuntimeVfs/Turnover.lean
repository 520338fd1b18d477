/-
This file says what becomes of directories: which calls bring one about, and in
which slot of the node table. A directory stays in its slot until its last name
goes; only `mkdir` and a mount put a new one into the table, and both take the
first free slot. A slot that a removed directory left may take a node of any
kind next.
-/

import ZigOs.RuntimeVfs.Handles

namespace ZigOs.RuntimeVfs

open Scan Call Function

/-- Which node a slot holds: its names, owner, contents and times aside. -/
structure Occupant where
  used : Bool
  generation : Nat
  kind : Kind
  deriving DecidableEq

def Node.occupant (node : Node) : Occupant := ⟨node.used, node.generation, node.kind⟩

namespace Vfs

variable (vfs : Vfs)

theorem modifyNode_self (node : Nat) (step : Node → Node) :
    (vfs.modifyNode node step).nodes node = step (vfs.nodes node) := update_self ..

variable {node : Nat}

theorem modifyNode_of_ne {other : Nat} (step : Node → Node) (different : other ≠ node) :
    (vfs.modifyNode node step).nodes other = vfs.nodes other := update_of_ne different ..

/-! ### Calls that leave every node where it is -/

/-- Every slot holds the node it held, and the mounts are the same. -/
structure SameOccupants (before after : Vfs) : Prop where
  occupant : ∀ node, (after.nodes node).occupant = (before.nodes node).occupant
  mounts : after.mounts = before.mounts

instance : Std.Refl SameOccupants where
  refl _ := ⟨fun _ => rfl, rfl⟩

instance : IsTrans Vfs SameOccupants where
  trans _ _ _ start finish :=
    ⟨fun node => (finish.occupant node).trans (start.occupant node), finish.mounts.trans start.mounts⟩

variable {before after : Vfs}

theorem SameTables.sameOccupants (same : SameTables before after) : SameOccupants before after := by
  obtain ⟨cache, clock, rfl⟩ := same
  exact ⟨fun _ => rfl, rfl⟩

theorem DataOnly.sameOccupants (data : DataOnly before after) : SameOccupants before after :=
  ⟨fun node => data.field node Node.occupant fun _ => rfl, data.mounts⟩

theorem sameOccupants_modifyNode (node : Nat) {step : Node → Node}
    (same : ∀ entry, (step entry).occupant = entry.occupant) :
    SameOccupants vfs (vfs.modifyNode node step) := by
  refine ⟨fun other => ?_, rfl⟩
  obtain rfl | here := eq_or_ne other node
  · rw [modifyNode_self, same]
  · rw [modifyNode_of_ne vfs step here]

theorem sameOccupants_of_nodes (nodes : after.nodes = before.nodes)
    (mounts : after.mounts = before.mounts) : SameOccupants before after :=
  ⟨fun node => by rw [nodes], mounts⟩

variable (index : Nat)

theorem sameOccupants_modifyDentry (step : Dentry → Dentry) :
    SameOccupants vfs (vfs.modifyDentry index step) := sameOccupants_of_nodes rfl rfl

theorem sameOccupants_invalidateCachedDentry :
    SameOccupants vfs (vfs.invalidateCachedDentry index) := sameOccupants_of_nodes rfl rfl

theorem sameOccupants_touch (node tick : Nat) : SameOccupants vfs (vfs.touch node tick) :=
  (dataOnly_touch vfs node tick).sameOccupants

theorem sameOccupants_setChangedTick (node tick : Nat) :
    SameOccupants vfs (vfs.setChangedTick node tick) := sameOccupants_modifyNode vfs node fun _ => rfl

theorem sameOccupants_recordDirectoryChange (directory node : Nat) (flags : DirectoryEvent)
    (name : Bytes) : SameOccupants vfs (vfs.recordDirectoryChange directory node flags name) :=
  sameOccupants_of_nodes rfl rfl

variable (parent : Nat) (name : Bytes) (tick : Nat)

/-- Moving an entry changes entries, times and events. -/
theorem sameOccupants_moveEntry : SameOccupants vfs (vfs.moveEntry index parent name tick) := by
  have announced := sameOccupants_recordDirectoryChange vfs (vfs.dentries index).parent
    (vfs.dentries index).node .renameFrom (vfs.dentries index).name
  have renamed (start : Vfs) : SameOccupants start (start.renameEntry index parent name tick) :=
    Trans.trans (Trans.trans (sameOccupants_invalidateCachedDentry start index)
      (sameOccupants_modifyDentry _ index _)) (sameOccupants_setChangedTick _ _ tick)
  have moved := Trans.trans (Trans.trans announced (renamed _))
    (sameOccupants_recordDirectoryChange _ parent (vfs.dentries index).node .renameTo name)
  have left := Trans.trans moved (sameOccupants_touch _ (vfs.dentries index).parent tick)
  unfold moveEntry
  dsimp only
  split
  · exact left
  · exact Trans.trans left (sameOccupants_touch _ parent tick)

variable (mountId : Nat)

/-- What migrates below a mount changes its entry and the mount it belongs to. -/
theorem sameOccupants_assignNodeMountRecursive (depth : Nat) (vfs : Vfs) (node : Nat) :
    SameOccupants vfs (assignNodeMountRecursive mountId depth vfs node) := by
  induction depth generalizing vfs node with
  | zero => exact refl vfs
  | succ depth hypothesis =>
    have assigned : SameOccupants vfs
        (vfs.modifyNode node fun entry => { entry with mountId := mountId }) :=
      sameOccupants_modifyNode vfs node fun _ => rfl
    exact Trans.trans assigned
      (foldl_keeps (fun before index => hypothesis before (vfs.dentries index).node) _ _)

theorem sameOccupants_migrateEntry (mountpoint root mountId : Nat) (vfs : Vfs) (index : Nat) :
    SameOccupants vfs (migrateEntry mountpoint root mountId vfs index) := by
  unfold migrateEntry
  split
  · exact refl vfs
  · exact Trans.trans (Trans.trans (sameOccupants_invalidateCachedDentry vfs index)
      (sameOccupants_modifyDentry _ index _))
      (sameOccupants_assignNodeMountRecursive mountId maximumDentries _ _)

theorem sameOccupants_discardDirtyMountPages :
    SameOccupants vfs (vfs.discardDirtyMountPages mountId) := by
  refine foldl_keeps (fun before node => ?_) _ vfs
  unfold discardIfOnMount
  dsimp only
  split
  · exact refl before
  · exact (dataOnly_discardDirtyFilePagesLocked before node _).sameOccupants

/-! ### Where directories come from -/

/-- Free slots hold no directory, and what a mount covers is one. -/
structure DirectoriesSound (vfs : Vfs) : Prop where
  used : ∀ node, (vfs.nodes node).kind = .directory → (vfs.nodes node).used = true
  mountpoint : ∀ index < maximumMounts, (vfs.mounts index).used = true → (vfs.mounts index).id ≠ 1 →
    (vfs.nodes (vfs.mounts index).mountpointNode).kind = .directory

theorem initialized_directoriesSound : Vfs.initialized.DirectoriesSound := by
  constructor
  · intro node directory
    by_cases root : node = 0
    · subst root
      rfl
    · simp [Vfs.initialized, root] at directory
  · intro index _ used notRoot
    obtain rfl | first := eq_or_ne index 0
    · exact absurd rfl notRoot
    · simp [Vfs.initialized, first] at used

/-- Directories come about in the given slots only: elsewhere a slot that holds a directory held
this one before. -/
structure Grows (created : Nat → Prop) (before after : Vfs) : Prop where
  sound : before.DirectoriesSound → after.DirectoriesSound
  directory : ∀ node, (after.nodes node).kind = .directory → created node ∨
    (before.nodes node).kind = .directory ∧
      (after.nodes node).generation = (before.nodes node).generation

variable {vfs : Vfs}

variable (cwd : Nat) (path : Bytes)

section Grows

variable {created : Nat → Prop}

instance : Std.Refl (Grows created) where
  refl _ := ⟨id, fun _ directory => Or.inr ⟨directory, rfl⟩⟩

instance : IsTrans Vfs (Grows created) where
  trans _ _ _ start finish := ⟨finish.sound ∘ start.sound, fun node directory => by
    rcases finish.directory node directory with fresh | ⟨earlier, generation⟩
    · exact Or.inl fresh
    · rcases start.directory node earlier with fresh | ⟨earliest, first⟩
      · exact Or.inl fresh
      · exact Or.inr ⟨earliest, generation.trans first⟩⟩

theorem Grows.mono {wider : Nat → Prop} (grows : Grows created before after)
    (within : ∀ node, created node → wider node) : Grows wider before after :=
  ⟨grows.sound, fun node directory => (grows.directory node directory).imp_left (within node)⟩

theorem SameOccupants.grows (same : SameOccupants before after) : Grows created before after := by
  have used (node : Nat) : (after.nodes node).used = (before.nodes node).used :=
    congrArg Occupant.used (same.occupant node)
  have generation (node : Nat) : (after.nodes node).generation = (before.nodes node).generation :=
    congrArg Occupant.generation (same.occupant node)
  have kind (node : Nat) : (after.nodes node).kind = (before.nodes node).kind :=
    congrArg Occupant.kind (same.occupant node)
  refine ⟨fun sound => ⟨fun node => ?_, ?_⟩, fun node directory => ?_⟩
  · rw [kind, used]
    exact sound.used node
  · rw [same.mounts]
    intro index below isUsed notRoot
    rw [kind]
    exact sound.mountpoint index below isUsed notRoot
  · rw [kind] at directory
    exact .inr ⟨directory, generation node⟩

theorem keeps_grows_of_sameTables {Value : Type} {call : VfsCall Value}
    (keeps : Keeps SameTables call) : Keeps (Grows created) call :=
  fun before => (keeps before).sameOccupants.grows

/-- A slot that no mount covers may be emptied. -/
theorem reclaimNode_grows (uncovered : vfs.mountAtNode node = none) :
    Grows created vfs (vfs.reclaimNode node) := by
  obtain ⟨middle, data, same⟩ := reclaimNode_steps vfs node
  rw [same]
  refine IsTrans.trans _ _ _ data.sameOccupants.grows ⟨fun sound => ⟨fun other => ?_, ?_⟩, fun other => ?_⟩
  · by_cases here : other = node
    · subst here
      rw [modifyNode_self]
      exact fun directory => nomatch directory
    · rw [modifyNode_of_ne _ _ here]
      exact sound.used other
  · intro index below used notRoot
    have elsewhere : (middle.mounts index).mountpointNode ≠ node := by
      intro covers
      have free := firstIndex_eq_none.mp uncovered index below
      rw [← data.mounts] at free
      have isUsed : (middle.mounts index).used = true := used
      have isMount : (middle.mounts index).id ≠ 1 := notRoot
      simp [isUsed, isMount, covers] at free
    exact (congrArg Node.kind (modifyNode_of_ne _ _ elsewhere)).trans
      (sound.mountpoint index below used notRoot)
  · obtain rfl | here := eq_or_ne other node
    · rw [modifyNode_self]
      exact fun directory => nomatch directory
    · rw [modifyNode_of_ne _ _ here]
      exact fun directory => .inr ⟨directory, rfl⟩

variable {index : Nat}

/-- Taking a name away may empty the slot of the node it named. -/
theorem detachOrReclaimEntry_grows (uncovered : vfs.mountAtNode (vfs.dentries index).node = none) :
    Grows created vfs (vfs.detachOrReclaimEntry index) := by
  have released : SameOccupants vfs (vfs.releaseDentry index) :=
    IsTrans.trans _ _ _ (sameOccupants_invalidateCachedDentry vfs index)
      (sameOccupants_modifyDentry _ index _)
  have unlinked : SameOccupants (vfs.releaseDentry index) ((vfs.releaseDentry index).modifyNode
      (vfs.dentries index).node fun entry => { entry with linkCount := entry.linkCount - 1 }) :=
    sameOccupants_modifyNode _ _ fun _ => rfl
  have detached := IsTrans.trans _ _ _ released unlinked
  unfold detachOrReclaimEntry
  dsimp only
  split
  · exact IsTrans.trans _ _ _ detached.grows (reclaimNode_grows uncovered)
  · exact detached.grows

/-! ### Removing and renaming -/

theorem dropEntry_grows (uncovered : vfs.mountAtNode (vfs.dentries index).node = none) :
    Grows created vfs (vfs.dropEntry index tick) :=
  IsTrans.trans _ _ _ (IsTrans.trans _ _ _ (sameOccupants_touch vfs _ tick)
    (sameOccupants_recordDirectoryChange _ _ _ .removed _)).grows
    (detachOrReclaimEntry_grows uncovered)

theorem unlinkEntry_grows (index tick : Nat) : Keeps (Grows created) (unlinkEntry index tick) := by
  refine keeps_of_keepsFrom fun before => keepsFrom_state (keepsFrom_failWhen fun _ =>
    keepsFrom_failWhen fun _ => keepsFrom_failWhen fun uncovered => ?_)
  refine keepsFrom_change (IsTrans.trans _ _ _ (sameOccupants_setChangedTick before _ tick).grows
    (dropEntry_grows tick ?_))
  exact Option.not_isSome_iff_eq_none.mp uncovered

theorem removeEntry_grows (index tick : Nat) : Keeps (Grows created) (removeEntry index tick) := by
  refine keeps_of_keepsFrom fun before => keepsFrom_state (keepsFrom_failWhen fun _ =>
    keepsFrom_failWhen fun _ => keepsFrom_failWhen fun uncovered =>
      keepsFrom_failWhen fun _ => keepsFrom_change (dropEntry_grows tick ?_))
  exact Option.not_isSome_iff_eq_none.mp uncovered

variable (credentials : Ownership)

theorem unlinkAs_grows (tick : Nat) : Keeps (Grows created) (unlinkAs cwd path credentials tick) :=
  keeps_bind (keeps_grows_of_sameTables (entryForPathAs_sameTables cwd path credentials))
    fun entry => keeps_state_bind fun _ => keeps_bind (keeps_failWhen _ _)
      fun _ => keeps_lift_bind fun _ => unlinkEntry_grows entry tick

theorem rmdirAs_grows (tick : Nat) : Keeps (Grows created) (rmdirAs cwd path credentials tick) :=
  keeps_bind (keeps_grows_of_sameTables (entryForPathAs_sameTables cwd path credentials))
    fun entry => keeps_state_bind fun _ => keeps_bind (keeps_failWhen _ _)
      fun _ => keeps_failWhen_bind fun _ =>
        keeps_lift_bind fun _ => removeEntry_grows entry tick

/-- A node that may be replaced is not covered by a mount. -/
theorem requireReplacement_uncovered {parent source : Nat} {credentials : Ownership}
    (allowed : vfs.requireReplacement index parent source credentials = .ok ()) :
    vfs.mountAtNode (vfs.dentries index).node = none := by
  unfold requireReplacement at allowed
  dsimp only at allowed
  split at allowed
  · cases allowed
  · unfold validateRenameReplacement at allowed
    dsimp only at allowed
    split at allowed
    · cases allowed
    · split at allowed
      · cases allowed
      · rename_i uncovered
        exact Option.not_isSome_iff_eq_none.mp uncovered

theorem renameAs_grows (oldPath newPath : Bytes) (credentials : Ownership) (tick : Nat) :
    Keeps (Grows created) (renameAs cwd oldPath newPath credentials tick) := by
  refine keeps_lift_bind fun _ => keeps_lift_bind fun _ => ?_
  refine keeps_bind (keeps_grows_of_sameTables (entryForPathAs_sameTables cwd oldPath credentials))
    fun sourceEntry => keeps_state_bind fun looked =>
      keeps_failWhen_bind fun _ => ?_
  refine keeps_bind (keeps_grows_of_sameTables (parentAndNameAs_sameTables cwd newPath credentials))
    fun ⟨parent, name⟩ => keeps_state_bind fun _ =>
      keeps_failWhen_bind fun _ => keeps_bind (keeps_failWhen _ _)
        fun _ => keeps_failWhen_bind fun _ => ?_
  refine keeps_bind (keeps_grows_of_sameTables (findDentry_sameTables parent name)) fun target => ?_
  refine keeps_of_keepsFrom fun before => keepsFrom_state ?_
  cases target with
  | none =>
    exact keepsFrom_lift fun _ _ =>
      keepsFrom_change (sameOccupants_moveEntry before sourceEntry parent name tick).grows
  | some targetEntry =>
    refine keepsFrom_ite (fun _ => keepsFrom_pure _) fun _ => keepsFrom_lift fun _ _ =>
      keepsFrom_lift fun _ allowed => keepsFrom_change ?_
    have told := IsTrans.trans _ _ _ (sameOccupants_setChangedTick before
      (before.dentries targetEntry).node tick) (sameOccupants_recordDirectoryChange _ parent
        (before.dentries targetEntry).node .removed (before.dentries targetEntry).name)
    have uncovered := requireReplacement_uncovered allowed
    have replaced : Grows created before (before.replaceEntry targetEntry parent tick) :=
      IsTrans.trans _ _ _ told.grows (detachOrReclaimEntry_grows uncovered)
    exact IsTrans.trans _ _ _ replaced (sameOccupants_moveEntry _ sourceEntry parent name tick).grows

end Grows

/-! ### Creation and mounts -/

theorem SameOccupants.freeNode (same : SameOccupants before after) :
    after.freeNode = before.freeNode := by
  have used (node : Nat) : (after.nodes node).used = (before.nodes node).used :=
    congrArg Occupant.used (same.occupant node)
  simp only [Vfs.freeNode, used]

theorem freeNode_unused (free : vfs.freeNode = .ok node) : (vfs.nodes node).used = false := by
  unfold freeNode at free
  split at free
  · rename_i first found
    cases free
    have unused := firstIndex_test found
    simp only [Bool.and_eq_true, Bool.not_eq_true'] at unused
    exact unused.2
  · cases free

/-- A used node in a free slot. -/
theorem placeNode_grows (step : Node → Node) (free : vfs.freeNode = .ok node)
    (used : (step (vfs.nodes node)).used = true) :
    Grows (fun slot => slot = node ∧ (step (vfs.nodes node)).kind = .directory) vfs
      (vfs.modifyNode node step) := by
  refine ⟨fun sound => ⟨fun other => ?_, fun index below isUsed notRoot => ?_⟩, fun other => ?_⟩
  · by_cases here : other = node
    · subst here
      rw [modifyNode_self]
      exact fun _ => used
    · rw [modifyNode_of_ne _ _ here]
      exact sound.used other
  · have covered := sound.mountpoint index below isUsed notRoot
    have elsewhere : (vfs.mounts index).mountpointNode ≠ node := by
      rintro rfl
      have taken := sound.used _ covered
      rw [freeNode_unused free] at taken
      cases taken
    exact (congrArg Node.kind (modifyNode_of_ne _ _ elsewhere)).trans covered
  · obtain rfl | here := eq_or_ne other node
    · rw [modifyNode_self]
      exact fun directory => .inl ⟨rfl, directory⟩
    · rw [modifyNode_of_ne _ _ here]
      exact fun directory => .inr ⟨directory, rfl⟩

theorem installNode_grows (entry parent : Nat) (name : Bytes) (new : NewNode)
    (free : vfs.freeNode = .ok node) :
    Grows (fun slot => vfs.freeNode = .ok slot ∧ new.kind = .directory) vfs
      (vfs.installNode node entry parent name new) := by
  have placed := placeNode_grows (fun old =>
    new.entry (nextGeneration old.generation) (vfs.nodes parent).mountId) free rfl
  have named (start : Vfs) : SameOccupants start (start.initializeDentry entry parent node name) :=
    sameOccupants_modifyDentry start entry _
  refine IsTrans.trans _ _ _ (placed.mono ?_) (IsTrans.trans _ _ _ (named _) (IsTrans.trans _ _ _
    (sameOccupants_touch _ parent new.tick)
    (sameOccupants_recordDirectoryChange _ parent node .created name))).grows
  rintro slot ⟨rfl, directory⟩
  exact ⟨free, directory⟩

/-- A creation that succeeds takes the first free slot, and it puts a directory there only when
asked for one. -/
theorem createNodeInternal_grows (new : NewNode) (privileged : Bool) (before : Vfs) :
    Yields (fun result after => Grows (fun slot =>
        result.isOk = true ∧ before.freeNode = .ok slot ∧ new.kind = .directory) before after) before
      (createNodeInternal parent name new privileged) := by
  refine yields_state (yields_lift (fun _ _ => refl before) fun _ _ =>
    yields_failWhen (fun _ => refl before) fun _ => ?_)
  have searched := (findDentry_sameTables parent name before).sameOccupants
  refine yields_bind (fun failure after lookup => ?_) fun existing found lookup => ?_
  · rw [lookup] at searched
    exact searched.grows
  · rw [lookup] at searched
    refine yields_failWhen (fun _ => searched.grows) fun _ => yields_state
      (yields_failWhen (fun _ => searched.grows) fun _ =>
        yields_lift (fun _ _ => searched.grows) fun _ _ =>
          yields_failWhen (fun _ => searched.grows) fun _ => ?_)
    refine yields_lift (fun _ _ => searched.grows) fun node free =>
      yields_lift (fun _ _ => searched.grows) fun entry _ =>
        yields_change (yields_pure ?_)
    refine IsTrans.trans _ _ _ searched.grows
      ((installNode_grows entry parent name new free).mono fun slot fresh => ?_)
    exact ⟨rfl, searched.freeNode ▸ fresh.1, fresh.2⟩

variable (mode : BitVec 16) (owner : Ownership)

theorem mkdirOwned_grows (tick : Nat) (before : Vfs) :
    Yields (fun result after => Grows (fun slot =>
        result.isOk = true ∧ before.freeNode = .ok slot) before after) before
      (mkdirOwned cwd path mode owner tick) := by
  have searched := (parentAndNameAs_sameTables cwd path owner before).sameOccupants
  refine yields_bind (fun failure after lookup => ?_) fun ⟨parent, name⟩ found lookup => ?_
  · rw [lookup] at searched
    exact searched.grows
  · rw [lookup] at searched
    refine (createNodeInternal_grows parent name { kind := .directory, mode, owner, tick } false
      found).imp fun result after made => ?_
    refine IsTrans.trans _ _ _ searched.grows (made.mono fun slot fresh => ?_)
    exact ⟨fresh.1, searched.freeNode ▸ fresh.2.1⟩

theorem createOwned_grows {created : Nat → Prop} (tick : Nat) :
    Keeps (Grows created) (createOwned cwd path mode owner tick) := by
  refine keeps_bind (keeps_grows_of_sameTables (parentAndNameAs_sameTables cwd path owner))
    fun ⟨parent, name⟩ before => ?_
  have made : Grows _ before _ := createNodeInternal_grows parent name
    { kind := .file, mode, owner, tick } false before
  exact made.mono fun slot fresh => nomatch fresh.2.2

theorem openOwned_grows {created : Nat → Prop} (ownerPid cwd : Nat) (path : Bytes) (flags : OpenFlags)
    (mode : BitVec 16) (owner : Ownership) (tick : Nat) :
    Keeps (Grows created) (openOwned ownerPid cwd path flags mode owner tick) := by
  have resolves := @keeps_grows_of_sameTables created Nat _ (resolveAs_sameTables cwd path owner)
  refine keeps_failWhen_bind fun _ => keeps_bind ?_ fun node => ?_
  · refine keeps_bind (keeps_attempt resolves) fun found => ?_
    split
    · exact keeps_pure _
    · exact keeps_ite (createOwned_grows cwd path mode owner tick) (keeps_fail _)
    · exact keeps_fail _
  · refine keeps_state_bind fun _ => keeps_lift_bind fun _ =>
      keeps_bind (keeps_change fun before => ?_) fun _ => keeps_bind resolves fun node =>
        keeps_state_bind fun _ => keeps_lift_bind fun index =>
          keeps_bind (keeps_change fun before => ?_) fun _ => keeps_pure _
    · unfold truncateOnOpen
      dsimp only
      split
      · exact (dataOnly_truncateNodeLocked node 0 tick before).sameOccupants.grows
      · exact refl before
    · have opened : SameOccupants before (before.installOpen index ownerPid node flags) :=
        sameOccupants_of_nodes rfl rfl
      exact opened.grows

variable (kind : MountKind) (readonly : Bool) (source : Bytes)

/-- A mount covers a directory and brings its own root along. -/
theorem installMount_grows {root mountpoint : Nat} (free : vfs.freeNode = .ok root)
    (covers : (vfs.nodes mountpoint).kind = .directory) :
    Grows (fun slot => vfs.freeNode = .ok slot) vfs
      (vfs.installMount index root mountpoint kind readonly source) := by
  have placed : Grows (fun slot => vfs.freeNode = .ok slot) vfs (vfs.modifyNode root fun old =>
      mountRootEntry (nextGeneration old.generation) (index + 1) (vfs.nodes mountpoint)) := by
    refine (placeNode_grows _ free rfl).mono ?_
    rintro slot ⟨rfl, -⟩
    exact free
  have kept : ((vfs.modifyNode root fun old =>
      mountRootEntry (nextGeneration old.generation) (index + 1) (vfs.nodes mountpoint)).nodes
        mountpoint).kind = .directory := by
    by_cases here : mountpoint = root
    · subst here
      rw [modifyNode_self]
      rfl
    · rwa [modifyNode_of_ne _ _ here]
  have mounted {start : Vfs} (under : (start.nodes mountpoint).kind = .directory) :
      Grows (fun slot => vfs.freeNode = .ok slot) start (start.modifyMount index fun _ =>
        { used := true
          id := index + 1
          parentId := (vfs.nodes mountpoint).mountId
          mountpointNode := mountpoint
          rootNode := root
          kind := kind
          readonly := readonly
          source := source }) := by
    refine ⟨fun sound => ⟨sound.used, fun other below => ?_⟩, fun node directory => .inr ⟨directory, rfl⟩⟩
    obtain rfl | here := eq_or_ne other index
    · simp only [modifyMount, update_self]
      exact fun _ _ => under
    · simp only [modifyMount, update_of_ne here]
      exact sound.mountpoint other below
  have migrated (start : Vfs) :
      SameOccupants start (start.migrateMountChildren mountpoint root (index + 1)) :=
    foldl_keeps (sameOccupants_migrateEntry mountpoint root (index + 1)) _ start
  have grown := IsTrans.trans _ _ _ (IsTrans.trans _ _ _ placed (mounted kept)) (migrated _).grows
  unfold installMount
  dsimp only
  split
  · exact IsTrans.trans _ _ _ grown (sameOccupants_discardDirtyMountPages _ _).grows
  · exact grown

theorem mount_grows (before : Vfs) : Yields (fun result after => Grows (fun slot =>
        result.isOk = true ∧ before.freeNode = .ok slot) before after) before
      (mount cwd path kind readonly source) := by
  have searched := (entryForPathAs_sameTables cwd path {} before).sameOccupants
  refine yields_failWhen (fun _ => refl before) fun _ =>
    yields_bind (fun failure after lookup => ?_) fun entry found lookup => ?_
  · rw [lookup] at searched
    exact searched.grows
  · rw [lookup] at searched
    refine yields_state (yields_failWhen (fun _ => searched.grows) fun directory =>
      yields_failWhen (fun _ => searched.grows) fun _ =>
        yields_failWhen (fun _ => searched.grows) fun _ => ?_)
    refine yields_lift (fun _ _ => searched.grows) fun index _ =>
      yields_lift (fun _ _ => searched.grows) fun root free =>
        yields_change (yields_pure ?_)
    refine IsTrans.trans _ _ _ searched.grows ((installMount_grows index kind readonly source free
      (not_not.mp directory)).mono fun slot fresh => ?_)
    exact ⟨rfl, searched.freeNode ▸ fresh⟩

theorem mountEmpty_grows (before : Vfs) : Yields (fun result after => Grows (fun slot =>
        result.isOk = true ∧ before.freeNode = .ok slot) before after) before
      (mountEmpty cwd path kind readonly source) := by
  have searched := (entryForPathAs_sameTables cwd path {} before).sameOccupants
  refine yields_bind (fun failure after lookup => ?_) fun entry found lookup => ?_
  · rw [lookup] at searched
    exact searched.grows
  · rw [lookup] at searched
    refine yields_state (yields_failWhen (fun _ => searched.grows) fun _ =>
      yields_failWhen (fun _ => searched.grows) fun _ => ?_)
    refine (mount_grows cwd path kind readonly source found).imp fun result after mounted => ?_
    refine IsTrans.trans _ _ _ searched.grows (mounted.mono fun slot fresh => ?_)
    exact ⟨fresh.1, searched.freeNode ▸ fresh.2⟩

end Vfs

end ZigOs.RuntimeVfs
