/-
This file goes through the public calls of the filesystem and shows each of
them orderly. Only a mount can put two names of one kind into a directory: it
moves the entries of the mount point below a root whose slot may still hold
names that an earlier unmount left behind.
-/

import ZigOs.RuntimeVfs.DentryCache

namespace ZigOs.RuntimeVfs

open Call EventFeed Function

namespace Vfs

variable {vfs : Vfs}

variable (cwd mountId : Nat) (path : Bytes) (credentials : Ownership)

section Orderly

variable {clash : Prop}

/-! ### Lookups -/

theorem findDentry_orderly (parent : Nat) (name : Bytes) :
    Keeps (Orderly clash) (findDentry parent name) := fun vfs =>
  (findDentry_sameTables parent name vfs).orderly (findDentry_references parent name vfs)

theorem resolveInternalAs_orderly (followFinal : Bool) (credentials : Ownership) :
    Keeps (Orderly clash) (resolveInternalAs cwd path followFinal credentials) := fun vfs =>
  (resolveInternalAs_sameTables cwd path followFinal credentials vfs).orderly
    (resolveInternalAs_keeps (fun _ => stepInto_references) cwd path followFinal credentials vfs)

theorem resolveAs_orderly :
    Keeps (Orderly clash) (resolveAs cwd path credentials) := resolveInternalAs_orderly _ _ _ _

theorem parentAndNameAs_orderly :
    Keeps (Orderly clash) (parentAndNameAs cwd path credentials) := fun vfs =>
  (parentAndNameAs_sameTables cwd path credentials vfs).orderly
    (parentAndNameAs_keeps (fun _ => stepInto_references) cwd path credentials vfs)

theorem entryForPathAs_orderly :
    Keeps (Orderly clash) (entryForPathAs cwd path credentials) := fun vfs =>
  (entryForPathAs_sameTables cwd path credentials vfs).orderly
    (entryForPathAs_keeps (fun _ => stepInto_references) findDentry_references cwd path credentials vfs)

variable {parent : Nat} {name : Bytes}

/-- When nothing is found, nothing has the name afterwards either. -/
theorem findDentry_unnamed {before found : Vfs}
    (lookup : findDentry parent name before = (.ok none, found)) :
    ∀ other < maximumDentries, found.dentryNamed parent name other = false := by
  have same := findDentry_sameTables parent name before
  have unnamed := findDentry_none lookup
  rw [lookup] at same
  obtain ⟨cache, clock, rfl⟩ := same
  exact unnamed

/-! ### Steps on the tables -/

theorem orderly_modifyNode (vfs : Vfs) (node : Nat) (step : Node → Node) :
    Orderly clash vfs (vfs.modifyNode node step) :=
  SameNames.orderly ⟨rfl, rfl, rfl, rfl⟩

theorem orderly_touch (vfs : Vfs) (node tick : Nat) : Orderly clash vfs (vfs.touch node tick) :=
  orderly_modifyNode vfs node _

theorem orderly_modifyOpen (vfs : Vfs) (index : Nat) (step : OpenFile → OpenFile) :
    Orderly clash vfs (vfs.modifyOpen index step) :=
  SameNames.orderly ⟨rfl, rfl, rfl, rfl⟩

theorem orderly_modifyMount (vfs : Vfs) (index : Nat) (step : Mount → Mount) :
    Orderly clash vfs (vfs.modifyMount index step) :=
  SameNames.orderly ⟨rfl, rfl, rfl, rfl⟩

theorem orderly_invalidateCachedDentry (vfs : Vfs) (index : Nat) :
    Orderly clash vfs (vfs.invalidateCachedDentry index) :=
  orderly_of_names (fun unique => Or.inr ((namesUnique_congr rfl).mpr unique))
    (sameReferences_invalidateCachedDentry vfs index) rfl rfl

/-- An entry may change when no other entry has its new name. -/
theorem orderly_modifyDentry {vfs : Vfs} {index : Nat} {step : Dentry → Dentry}
    (apart : vfs.NamesUnique → clash ∨ ((step (vfs.dentries index)).used = true →
      ∀ other < maximumDentries, other ≠ index →
        vfs.dentryNamed (step (vfs.dentries index)).parent (step (vfs.dentries index)).name other =
          false)) : Orderly clash vfs (vfs.modifyDentry index step) :=
  orderly_of_names (fun unique => (apart unique).imp_right (unique.update rfl))
    (fun slot => refl (vfs.dentryCache slot)) rfl rfl

theorem orderly_releaseDentry (vfs : Vfs) (index : Nat) :
    Orderly clash vfs (vfs.releaseDentry index) := by
  refine IsTrans.trans _ _ _ (orderly_invalidateCachedDentry vfs index) (orderly_modifyDentry ?_)
  intro _
  exact .inr fun used => by cases used

theorem orderly_reclaimNode (vfs : Vfs) (node : Nat) : Orderly clash vfs (vfs.reclaimNode node) := by
  obtain ⟨middle, data, same⟩ := reclaimNode_steps vfs node
  rw [same]
  exact IsTrans.trans _ _ _ data.orderly (orderly_modifyNode middle node _)

theorem orderly_maybeReclaimUnlinked (vfs : Vfs) (node : Nat) :
    Orderly clash vfs (vfs.maybeReclaimUnlinked node) := by
  unfold maybeReclaimUnlinked
  split
  · exact refl vfs
  · split
    · exact refl vfs
    · exact orderly_reclaimNode vfs node

theorem orderly_detachOrReclaimEntry (vfs : Vfs) (index : Nat) :
    Orderly clash vfs (vfs.detachOrReclaimEntry index) := by
  have detached := IsTrans.trans _ _ _ (@orderly_releaseDentry clash vfs index)
    (orderly_modifyNode _ (vfs.dentries index).node fun entry =>
      { entry with linkCount := entry.linkCount - 1 })
  unfold detachOrReclaimEntry
  dsimp only
  split
  · exact IsTrans.trans _ _ _ detached (orderly_reclaimNode _ _)
  · exact detached

theorem orderly_initializeDentry {vfs : Vfs} {parent : Nat} {name : Bytes} (entry node : Nat)
    (unnamed : ∀ other < maximumDentries, vfs.dentryNamed parent name other = false) :
    Orderly clash vfs (vfs.initializeDentry entry parent node name) :=
  orderly_modifyDentry fun _ => Or.inr fun _ other below _ => unnamed other below

theorem orderly_installNode {node entry : Nat} {new : NewNode}
    (unnamed : ∀ other < maximumDentries, vfs.dentryNamed parent name other = false) :
    Orderly clash vfs (vfs.installNode node entry parent name new) := by
  have placed : Orderly clash vfs (vfs.modifyNode node fun old =>
      new.entry (nextGeneration old.generation) (vfs.nodes parent).mountId) :=
    orderly_modifyNode vfs node _
  have named := IsTrans.trans _ _ _ placed (orderly_initializeDentry entry node unnamed)
  have touched := IsTrans.trans _ _ _ named (orderly_touch _ parent new.tick)
  exact IsTrans.trans _ _ _ touched
    (orderly_recordDirectoryChange _ parent node .created name (by decide))

theorem orderly_dropEntry (vfs : Vfs) (index tick : Nat) :
    Orderly clash vfs (vfs.dropEntry index tick) := by
  have touched := @orderly_touch clash vfs (vfs.dentries index).parent tick
  have told := IsTrans.trans _ _ _ touched (orderly_recordDirectoryChange _ (vfs.dentries index).parent
    (vfs.dentries index).node .removed (vfs.dentries index).name (by decide))
  exact IsTrans.trans _ _ _ told (orderly_detachOrReclaimEntry _ index)

theorem orderly_replaceEntry (vfs : Vfs) (index parent tick : Nat) :
    Orderly clash vfs (vfs.replaceEntry index parent tick) := by
  have changed : Orderly clash vfs (vfs.setChangedTick (vfs.dentries index).node tick) :=
    orderly_modifyNode vfs _ _
  have told := IsTrans.trans _ _ _ changed (orderly_recordDirectoryChange _ parent
    (vfs.dentries index).node .removed (vfs.dentries index).name (by decide))
  exact IsTrans.trans _ _ _ told (orderly_detachOrReclaimEntry _ index)

variable (tick : Nat)

/-- An entry may move to a name that no other entry has. -/
theorem orderly_moveEntry {index : Nat}
    (apart : vfs.NamesUnique → clash ∨ ∀ other < maximumDentries, other ≠ index →
      vfs.dentryNamed parent name other = false) :
    Orderly clash vfs (vfs.moveEntry index parent name tick) := by
  have announced := @orderly_recordDirectoryChange clash vfs (vfs.dentries index).parent
    (vfs.dentries index).node .renameFrom (vfs.dentries index).name (by decide)
  have renamed (start : Vfs) (same : start.dentries = vfs.dentries) :
      Orderly clash start (start.renameEntry index parent name tick) := by
    have placed : Orderly clash (start.invalidateCachedDentry index)
        ((start.invalidateCachedDentry index).modifyDentry index fun entry =>
          { entry with parent := parent, name := name }) := orderly_modifyDentry ?_
    · have invalidated := @orderly_invalidateCachedDentry clash start index
      have changed (later : Vfs) : Orderly clash later
          (later.setChangedTick (start.dentries index).node tick) := orderly_modifyNode later _ _
      exact IsTrans.trans _ _ _ (IsTrans.trans _ _ _ invalidated placed) (changed _)
    intro unique
    refine (apart ((namesUnique_congr same).mp unique)).imp_right fun free _ other below elsewhere => ?_
    simpa only [dentryNamed, invalidateCachedDentry, same] using free other below elsewhere
  have moved := IsTrans.trans _ _ _ (IsTrans.trans _ _ _ announced (renamed _ rfl))
    (orderly_recordDirectoryChange _ parent (vfs.dentries index).node .renameTo name (by decide))
  have left := IsTrans.trans _ _ _ moved (orderly_touch _ (vfs.dentries index).parent tick)
  unfold moveEntry
  dsimp only
  split
  · exact left
  · exact IsTrans.trans _ _ _ left (orderly_touch _ parent tick)

/-! ### Calls on names -/

theorem createNodeInternal_orderly (parent : Nat) (name : Bytes) (new : NewNode)
    (privileged : Bool) : Keeps (Orderly clash) (createNodeInternal parent name new privileged) := by
  refine keeps_of_keepsFrom fun before => keepsFrom_state (keepsFrom_lift fun _ _ =>
    keepsFrom_failWhen fun _ => ?_)
  refine keepsFrom_bind (findDentry_orderly parent name before) fun existing found lookup => ?_
  refine keepsFrom_failWhen fun missing => keepsFrom_state (keepsFrom_failWhen fun _ => ?_)
  refine keepsFrom_lift fun _ _ => keepsFrom_failWhen fun _ => ?_
  refine keepsFrom_lift fun node _ => keepsFrom_lift fun entry _ => ?_
  obtain rfl : existing = none := by simpa using missing
  exact keepsFrom_change_bind (orderly_installNode (findDentry_unnamed lookup)) (keepsFrom_pure _)

variable (mode : BitVec 16) (owner : Ownership)

theorem createOwned_orderly
    (tick : Nat) : Keeps (Orderly clash) (createOwned cwd path mode owner tick) :=
  keeps_bind (parentAndNameAs_orderly _ _ _) fun _ => createNodeInternal_orderly _ _ _ _

theorem mkdirOwned_orderly
    (tick : Nat) : Keeps (Orderly clash) (mkdirOwned cwd path mode owner tick) :=
  keeps_bind (parentAndNameAs_orderly _ _ _) fun _ => createNodeInternal_orderly _ _ _ _

variable (node : Nat)

theorem keeps_modifyNode_orderly (step : Node → Node) :
    Keeps (Orderly clash) (change fun vfs => vfs.modifyNode node step : VfsCall Unit) :=
  keeps_change fun vfs => orderly_modifyNode vfs node step

theorem symlinkOwned_orderly (target path : Bytes) (owner : Ownership) (tick : Nat) :
    Keeps (Orderly clash) (symlinkOwned cwd target path owner tick) := by
  refine keeps_failWhen_bind fun _ => keeps_lift_bind fun _ =>
    keeps_lift_bind fun _ => keeps_bind (parentAndNameAs_orderly _ _ _) fun _ => ?_
  exact keeps_bind (createNodeInternal_orderly _ _ _ _) fun node =>
    keeps_bind (keeps_modifyNode_orderly node _) fun _ => keeps_pure _

theorem createPseudoWithOperations_orderly (tick : Nat) (operations : Option PseudoOperations)
    (context : Nat) :
    Keeps (Orderly clash) (createPseudoWithOperations cwd path mode tick operations context) :=
  keeps_bind (parentAndNameAs_orderly _ _ _) fun _ => keeps_bind (createNodeInternal_orderly _ _ _ _)
    fun node => keeps_bind (keeps_modifyNode_orderly node _) fun _ => keeps_pure _

variable (mountRoot : Nat)

theorem publishPseudoRegistration_orderly (name : Bytes) (mode : BitVec 16) (tick : Nat)
    (operations : PseudoOperations) (context : Nat) :
    Keeps (Orderly clash) (publishPseudoRegistration mountRoot name mode tick operations context) :=
  keeps_state_bind fun _ => keeps_lift_bind fun _ => keeps_lift_bind fun _ =>
    keeps_bind (createNodeInternal_orderly _ _ _ _) fun node =>
      keeps_bind (keeps_modifyNode_orderly node _) fun _ => keeps_pure _

theorem withdrawPseudoRegistration_orderly (name : Bytes) :
    Keeps (Orderly clash) (withdrawPseudoRegistration mountRoot name) := by
  refine keeps_state_bind fun _ => keeps_lift_bind fun _ =>
    keeps_lift_bind fun _ => keeps_bind (findDentry_orderly _ _) fun found => ?_
  cases found with
  | none => exact keeps_fail _
  | some entry =>
    refine keeps_state_bind fun _ => keeps_failWhen_bind fun _ =>
      keeps_failWhen_bind fun _ => keeps_change fun vfs => ?_
    exact IsTrans.trans _ _ _ (orderly_recordDirectoryChange vfs _ _ .removed _ (by decide))
      (orderly_detachOrReclaimEntry _ entry)

variable (size : Nat)

theorem createBackedFileWithOperations_orderly (mode : BitVec 16) (tick : Nat)
    (operations : PseudoOperations) (context : Nat) : Keeps (Orderly clash)
      (createBackedFileWithOperations cwd path size mode tick operations context) := by
  refine keeps_failWhen_bind fun _ => keeps_bind (parentAndNameAs_orderly _ _ _) fun _ =>
    keeps_bind (createNodeInternal_orderly _ _ _ _) fun node => keeps_bind (keeps_change fun vfs => ?_)
      fun _ => keeps_pure _
  exact IsTrans.trans _ _ _ (orderly_modifyNode vfs node _) (orderly_modifyNode _ node _)

theorem resolveOr_orderly {make : VfsCall Nat} (makes : Keeps (Orderly clash) make) :
    Keeps (Orderly clash) (resolveOr cwd path credentials make) := by
  refine keeps_bind (keeps_attempt (resolveAs_orderly cwd path credentials)) fun found => ?_
  split
  · exact keeps_pure _
  · exact makes
  · exact keeps_fail _

variable (oldPath newPath : Bytes)

theorem linkAs_orderly (credentials : Ownership) (tick : Nat) :
    Keeps (Orderly clash) (linkAs cwd oldPath newPath credentials tick) := by
  refine keeps_lift_bind fun _ => keeps_lift_bind fun _ =>
    keeps_bind (resolveInternalAs_orderly _ _ _ _) fun node => keeps_state_bind fun _ =>
      keeps_failWhen_bind fun _ => keeps_failWhen_bind fun _ =>
        keeps_bind (parentAndNameAs_orderly _ _ _) fun ⟨parent, name⟩ => ?_
  refine keeps_of_keepsFrom fun before => keepsFrom_state (keepsFrom_failWhen fun _ =>
    keepsFrom_failWhen fun _ => ?_)
  refine keepsFrom_bind (findDentry_orderly parent name before) fun existing found lookup => ?_
  refine keepsFrom_failWhen fun missing => keepsFrom_state (keepsFrom_failWhen fun _ =>
    keepsFrom_lift fun entry _ => keepsFrom_change_bind ?_ (keepsFrom_pure _))
  obtain rfl : existing = none := by simpa using missing
  have named := @orderly_initializeDentry clash _ parent name entry node (findDentry_unnamed lookup)
  have counted := IsTrans.trans _ _ _ named (orderly_modifyNode _ node fun old =>
    { old with linkCount := old.linkCount + 1, changedTick := tick })
  have touched := IsTrans.trans _ _ _ counted (orderly_touch _ parent tick)
  exact IsTrans.trans _ _ _ touched
    (orderly_recordDirectoryChange _ parent node .created name (by decide))

variable (index : Nat)

theorem unlinkEntry_orderly (tick : Nat) : Keeps (Orderly clash) (unlinkEntry index tick) :=
  keeps_state_bind fun _ => keeps_failWhen_bind fun _ =>
    keeps_failWhen_bind fun _ => keeps_failWhen_bind fun _ =>
      keeps_change fun vfs => IsTrans.trans _ _ _ (orderly_modifyNode vfs _ _)
        (orderly_dropEntry _ index tick)

theorem removeEntry_orderly (tick : Nat) : Keeps (Orderly clash) (removeEntry index tick) :=
  keeps_state_bind fun _ => keeps_failWhen_bind fun _ =>
    keeps_failWhen_bind fun _ => keeps_failWhen_bind fun _ =>
      keeps_failWhen_bind fun _ => keeps_change fun vfs => orderly_dropEntry vfs index tick

theorem unlinkAs_orderly : Keeps (Orderly clash) (unlinkAs cwd path credentials tick) :=
  keeps_bind (entryForPathAs_orderly _ _ _) fun entry => keeps_state_bind fun _ =>
    keeps_failWhen_bind fun _ => keeps_lift_bind fun _ =>
      unlinkEntry_orderly entry tick

theorem rmdirAs_orderly : Keeps (Orderly clash) (rmdirAs cwd path credentials tick) :=
  keeps_bind (entryForPathAs_orderly _ _ _) fun entry => keeps_state_bind fun _ =>
    keeps_failWhen_bind fun _ => keeps_failWhen_bind fun _ =>
      keeps_lift_bind fun _ => removeEntry_orderly entry tick

theorem replaceEntry_dentries (vfs : Vfs) (index parent tick : Nat) :
    (vfs.replaceEntry index parent tick).dentries = update vfs.dentries index
      { generation := (vfs.dentries index).generation } := detachOrReclaimEntry_dentries _ index

/-- A renamed entry takes a name that nobody has, or the name of the entry that it replaces. -/
theorem renameAs_orderly (credentials : Ownership)
    (tick : Nat) : Keeps (Orderly clash) (renameAs cwd oldPath newPath credentials tick) := by
  refine keeps_lift_bind fun _ => keeps_lift_bind fun _ =>
    keeps_bind (entryForPathAs_orderly _ _ _) fun sourceEntry => keeps_state_bind fun looked =>
      keeps_failWhen_bind fun _ =>
        keeps_bind (parentAndNameAs_orderly _ _ _) fun ⟨parent, name⟩ => ?_
  refine keeps_of_keepsFrom fun before => keepsFrom_state (keepsFrom_failWhen fun _ =>
    keepsFrom_failWhen fun _ => keepsFrom_failWhen fun _ => ?_)
  refine keepsFrom_bind (findDentry_orderly parent name before) fun target found lookup =>
    keepsFrom_state ?_
  cases target with
  | none =>
    refine keepsFrom_lift fun _ _ => keepsFrom_change (orderly_moveEntry tick ?_)
    intro _
    exact .inr fun other below _ => findDentry_unnamed lookup other below
  | some targetEntry =>
    refine keepsFrom_ite (fun _ => keepsFrom_pure _) fun _ => ?_
    refine keepsFrom_lift fun _ _ => keepsFrom_lift fun _ _ => keepsFrom_change ?_
    have named : targetEntry < maximumDentries ∧ found.dentryNamed parent name targetEntry = true := by
      have same := findDentry_sameTables parent name before
      have answer := findDentry_some lookup
      rw [lookup] at same
      obtain ⟨cache, clock, rfl⟩ := same
      exact answer
    have moved : Orderly True found
        ((found.replaceEntry targetEntry parent tick).moveEntry sourceEntry parent name tick) :=
      IsTrans.trans _ _ _ (orderly_replaceEntry found targetEntry parent tick)
        (orderly_moveEntry tick fun _ => .inl trivial)
    refine moved.refine fun unique => (IsTrans.trans _ _ _ (orderly_replaceEntry found targetEntry
      parent tick) (orderly_moveEntry tick fun _ => .inr ?_)).names unique
    -- The replaced entry had the name, so no other one has.
    intro other below _
    by_cases here : other = targetEntry
    · simp only [dentryNamed, replaceEntry_dentries, here, update_self, Bool.false_and]
    · simp only [dentryNamed, replaceEntry_dentries, update_of_ne here]
      by_contra isNamed
      exact here (unique.eq_of_named below named.1 (Bool.eq_true_of_not_eq_false isNamed) named.2)

/-! ### Calls on contents -/

variable {Value : Type}

theorem Keeps.orderly_of_dataOnly {call : VfsCall Value} (keeps : Keeps DataOnly call) :
    Keeps (Orderly clash) call := fun vfs => (keeps vfs).orderly

/-- A call that resolves a path and then leaves names alone. -/
theorem onNode_orderly {cwd : Nat} {path : Bytes} {followFinal : Bool} {credentials : Ownership}
    {rest : Nat → VfsCall Value} (after : ∀ node, Keeps (Orderly clash) (rest node)) :
    Keeps (Orderly clash) (resolveInternalAs cwd path followFinal credentials >>= rest) :=
  keeps_bind (resolveInternalAs_orderly _ _ _ _) after

theorem chmodAs_orderly (credentials : Ownership)
    (tick : Nat) : Keeps (Orderly clash) (chmodAs cwd path mode credentials tick) :=
  onNode_orderly fun node => keeps_state_bind fun _ => keeps_failWhen_bind fun _ =>
    keeps_failWhen_bind fun _ => keeps_failWhen_bind fun _ =>
      keeps_modifyNode_orderly node _

theorem restoreOwnership_orderly (restored : Ownership) :
    Keeps (Orderly clash) (restoreOwnership cwd path restored) :=
  onNode_orderly fun node => keeps_modifyNode_orderly node _

theorem restoreTimestamps_orderly (restored : Timestamps) :
    Keeps (Orderly clash) (restoreTimestamps cwd path restored) :=
  onNode_orderly fun node => keeps_modifyNode_orderly node _

theorem readlinkAs_orderly (outputLength : Nat) (credentials : Ownership)
    (tick : Nat) : Keeps (Orderly clash) (readlinkAs cwd path outputLength credentials tick) := by
  refine onNode_orderly fun node => keeps_state_bind fun _ => keeps_lift_bind fun _ =>
    keeps_bind (keeps_change fun vfs => ?_) fun _ => keeps_pure _
  split
  · exact refl vfs
  · exact orderly_modifyNode vfs node _

variable (offset : Nat) (bytes : Bytes) (truncateFirst : Bool)

theorem writeNodeLocked_orderly
    (tick : Nat) : Keeps (Orderly clash) (writeNodeLocked node offset bytes truncateFirst tick) :=
  Keeps.orderly_of_dataOnly (writeNodeLocked_dataOnly _ _ _ _ _)

theorem writeNode_orderly (tick : Nat) :
    Keeps (Orderly clash) (writeNode node offset bytes truncateFirst tick) :=
  keeps_state_bind fun _ => keeps_lift_bind fun _ => writeNodeLocked_orderly _ _ _ _ _

theorem putFile_orderly (mode : BitVec 16) (readonly : Bool)
    (tick : Nat) : Keeps (Orderly clash) (putFile cwd path bytes mode readonly tick) := by
  refine keeps_failWhen_bind fun _ => keeps_failWhen_bind fun _ =>
    keeps_bind (resolveOr_orderly _ _ _ (createOwned_orderly _ _ _ _ _)) fun node =>
      keeps_state_bind fun _ => keeps_lift_bind fun _ => ?_
  exact keeps_bind (writeNodeLocked_orderly _ _ _ _ _) fun _ =>
    keeps_bind (keeps_modifyNode_orderly node _) fun _ => keeps_pure _

theorem dataOnly_restoreSlot (progress : Vfs × Bytes) (slot : Nat) :
    DataOnly progress.1 (restoreSlot node progress slot).1 := by
  have allocated := dataOnly_allocateFileBlockLocked node progress.1 slot
  unfold restoreSlot
  dsimp only
  exact Trans.trans allocated (dataOnly_modifyFileBlock _ node slot _)

theorem dataOnly_restoreBlocks (vfs : Vfs) (node : Nat) (bitmap : BitVec 8) (data : Bytes) :
    DataOnly vfs (vfs.restoreBlocks node bitmap data) := by
  have filled (slots : List Nat) (progress : Vfs × Bytes) :
      DataOnly progress.1 (slots.foldl (restoreSlot node) progress).1 := by
    induction slots generalizing progress with
    | nil => exact refl progress.1
    | cons slot rest hypothesis =>
      exact Trans.trans (dataOnly_restoreSlot node progress slot) (hypothesis _)
  have released := dataOnly_releaseAllFileBlocks vfs node
  unfold restoreBlocks
  generalize vfs.releaseAllFileBlocks node = emptied at released ⊢
  exact Trans.trans released (filled (bitmapSlots bitmap) (emptied, data))

theorem restoreSparseFile_orderly (allocationBitmap : BitVec 8) (allocatedData : Bytes)
    (tick : Nat) : Keeps (Orderly clash)
      (restoreSparseFile cwd path mode size allocationBitmap allocatedData tick) := by
  refine keeps_failWhen_bind fun _ => keeps_failWhen_bind fun _ =>
    keeps_failWhen_bind fun _ =>
      keeps_bind (resolveOr_orderly _ _ _ (createOwned_orderly _ _ _ _ _)) fun node =>
        keeps_state_bind fun _ => keeps_lift_bind fun _ =>
          keeps_failWhen_bind fun _ => keeps_bind (keeps_change fun vfs => ?_) fun _ => keeps_pure _
  have restored := @DataOnly.orderly clash _ _ (dataOnly_restoreBlocks vfs node allocationBitmap
    allocatedData)
  have resized := IsTrans.trans _ _ _ restored (orderly_modifyNode _ node fun entry =>
    { entry with size := size, mode := mode, modifiedTick := tick, changedTick := tick })
  have refreshed := IsTrans.trans _ _ _ resized
    (DataOnly.orderly (dataOnly_invalidateFilePageCacheNode _ node))
  exact IsTrans.trans _ _ _ refreshed (DataOnly.orderly (dataOnly_discardDirtyFilePagesLocked _ node _))

theorem countPseudoCall_orderly : Keeps (Orderly clash) countPseudoCall :=
  fun _ => SameNames.orderly ⟨rfl, rfl, rfl, rfl⟩

variable (length : Nat)

theorem readPseudo_orderly : Keeps (Orderly clash) (readPseudo node offset length) := by
  refine keeps_state_bind fun _ => keeps_lift_bind fun operations => ?_
  cases operations.read with
  | none => exact keeps_fail _
  | some readFn => exact keeps_bind countPseudoCall_orderly fun _ => keeps_lift _

theorem writePseudo_orderly : Keeps (Orderly clash) (writePseudo node offset bytes) := by
  refine keeps_state_bind fun _ => keeps_lift_bind fun operations => ?_
  cases operations.write with
  | none => exact keeps_fail _
  | some writeFn => exact keeps_bind countPseudoCall_orderly fun _ => keeps_lift _

theorem readContents_orderly : Keeps (Orderly clash) (readContents node offset length) :=
  Keeps.orderly_of_dataOnly (readContents_dataOnly _ _ _)

theorem fileViewNode_orderly : Keeps (Orderly clash) (fileViewNode node) :=
  keeps_state_bind fun _ => keeps_failWhen_bind fun _ =>
    keeps_failWhen_bind fun _ => readContents_orderly _ _ _

theorem touchWritten_orderly (tick written : Nat) :
    Keeps (Orderly clash) (touchWritten node tick written) := by
  refine keeps_change fun vfs => ?_
  split
  · exact refl vfs
  · exact orderly_touch vfs node tick

theorem readAs_orderly (credentials : Ownership) :
    Keeps (Orderly clash) (readAs cwd path offset length credentials) :=
  onNode_orderly fun _ => keeps_state_bind fun _ => keeps_failWhen_bind fun _ =>
    keeps_lift_bind fun _ => keeps_ite (readPseudo_orderly _ _ _)
      (keeps_failWhen_bind fun _ => readContents_orderly _ _ _)

theorem write_orderly
    (tick : Nat) : Keeps (Orderly clash) (write cwd path offset bytes truncateFirst tick) := by
  refine onNode_orderly fun node => keeps_state_bind fun _ => keeps_ite ?_
    (writeNode_orderly _ _ _ _ _)
  exact keeps_failWhen_bind fun _ => keeps_bind (writePseudo_orderly _ _ _) fun _ =>
    keeps_bind (touchWritten_orderly _ _ _) fun _ => keeps_pure _

theorem append_orderly (tick : Nat) : Keeps (Orderly clash) (append cwd path bytes tick) := by
  refine onNode_orderly fun node => keeps_state_bind fun _ =>
    keeps_ite (writePseudo_orderly _ _ _) ?_
  refine keeps_bind ?_ fun _ => keeps_pure _
  exact keeps_state_bind fun _ => keeps_lift_bind fun _ =>
    keeps_bind (writeNodeLocked_orderly _ _ _ _ _) fun _ => keeps_pure _

theorem orderly_truncateNodeLocked (tick : Nat) (vfs : Vfs) :
    Orderly clash vfs (truncateNodeLocked node size tick vfs) :=
  (dataOnly_truncateNodeLocked node size tick vfs).orderly

theorem truncate_orderly (tick : Nat) : Keeps (Orderly clash) (truncate cwd path size tick) :=
  keeps_failWhen_bind fun _ => onNode_orderly fun node => keeps_state_bind fun _ =>
    keeps_lift_bind fun _ => keeps_change (orderly_truncateNodeLocked node size tick)

theorem dataOnly_punchHoleLocked (vfs : Vfs) (node offset length : Nat) :
    DataOnly vfs (vfs.punchHoleLocked node offset length) := by
  refine foldl_keeps (fun before slot => ?_) _ vfs
  unfold punchSlot
  dsimp only
  split
  · exact dataOnly_releaseFileBlockLocked node before slot
  · exact dataOnly_modifyFileBlock before node slot _

variable (flags : AllocationFlags)

theorem allocateNode_orderly (tick : Nat) (enforceMode : Bool) :
    Keeps (Orderly clash) (allocateNode node offset length flags tick enforceMode) := by
  have settles (first last : Nat) (before : Vfs) : Orderly clash before
      ((((before.touch node tick).invalidateFilePageCacheNode node).markDirtyRange node first
        last).trimDirtyFilePagesLocked node) := by
    have refreshed := Trans.trans (dataOnly_touch before node tick)
      (dataOnly_invalidateFilePageCacheNode _ node)
    have marked := Trans.trans refreshed (dataOnly_markDirtyRange _ node first last)
    exact (Trans.trans marked (dataOnly_trimDirtyFilePagesLocked _ node)).orderly
  refine keeps_failWhen_bind fun _ => keeps_failWhen_bind fun _ =>
    keeps_failWhen_bind fun _ => keeps_state_bind fun vfs =>
      keeps_lift_bind fun _ => keeps_ite ?_ ?_
  · exact keeps_bind (keeps_change fun before =>
      (dataOnly_punchHoleLocked before node offset length).orderly) fun _ => keeps_change (settles _ _)
  · refine keeps_bind (Keeps.orderly_of_dataOnly (prepareWriteBlocks_dataOnly _ _ _ _)) fun _ =>
      keeps_bind (keeps_change fun before => ?_) fun _ => keeps_change (settles _ _)
    split
    · exact refl before
    · exact (dataOnly_setSize before node _).orderly

theorem allocate_orderly
    (tick : Nat) : Keeps (Orderly clash) (allocate cwd path offset length flags tick) :=
  onNode_orderly fun _ => allocateNode_orderly _ _ _ _ _ _

/-! ### Open files -/

theorem orderly_truncateOnOpen (flags : OpenFlags) (tick : Nat) (vfs : Vfs) :
    Orderly clash vfs (truncateOnOpen node flags tick vfs) := by
  unfold truncateOnOpen
  dsimp only
  split
  · exact orderly_truncateNodeLocked node 0 tick vfs
  · exact refl vfs

variable (ownerPid : Nat)

theorem openOwned_orderly (cwd : Nat) (path : Bytes) (flags : OpenFlags) (mode : BitVec 16)
    (owner : Ownership) (tick : Nat) :
    Keeps (Orderly clash) (openOwned ownerPid cwd path flags mode owner tick) := by
  refine keeps_failWhen_bind fun _ => keeps_bind (resolveOr_orderly cwd path owner
    (keeps_ite (createOwned_orderly _ _ _ _ _) (keeps_fail _))) fun node => ?_
  refine keeps_state_bind fun _ => keeps_lift_bind fun _ =>
    keeps_bind (keeps_change (orderly_truncateOnOpen node flags tick)) fun _ =>
      keeps_bind (resolveAs_orderly _ _ _) fun found => ?_
  exact keeps_state_bind fun _ => keeps_lift_bind fun index =>
    keeps_bind (keeps_change fun before => orderly_modifyOpen before index _) fun _ => keeps_pure _

theorem orderly_closeSlot (vfs : Vfs) (index : Nat) : Orderly clash vfs (vfs.closeSlot index) := by
  have closed := @orderly_modifyOpen clash vfs index fun old => { generation := old.generation }
  unfold closeSlot
  exact IsTrans.trans _ _ _ closed (orderly_maybeReclaimUnlinked _ _)

variable (handle : Nat)

theorem close_orderly : Keeps (Orderly clash) (close ownerPid handle) :=
  keeps_state_bind fun _ => keeps_lift_bind fun index =>
    keeps_change fun vfs => orderly_closeSlot vfs index

theorem orderly_closeAll (vfs : Vfs) : Orderly clash vfs (closeAll ownerPid vfs).2 := by
  simp only [closeAll]
  refine foldl_keeps (fun before index => ?_) _ vfs
  unfold closeIfOwned
  split
  · exact refl before
  · exact orderly_closeSlot before index

theorem orderly_advance (vfs : Vfs) (index offset : Nat) : Orderly clash vfs (vfs.advance index offset) :=
  orderly_modifyOpen vfs index _

theorem orderly_finishRead (count : Nat) (tick : Option Nat) (vfs : Vfs) :
    Orderly clash vfs (finishRead index count tick vfs) := by
  have advanced := @orderly_advance clash vfs index ((vfs.openFiles index).offset + count)
  unfold finishRead
  dsimp only
  split
  · split
    · exact advanced
    · exact IsTrans.trans _ _ _ advanced (orderly_modifyNode _ _ _)
  · exact advanced

theorem readOpenInternal_orderly (length : Nat) (tick : Option Nat) :
    Keeps (Orderly clash) (readOpenInternal ownerPid handle length tick) := by
  refine keeps_state_bind fun _ => keeps_lift_bind fun index =>
    keeps_failWhen_bind fun _ => keeps_failWhen_bind fun _ =>
      keeps_ite ?_ ?_
  · exact keeps_bind (readPseudo_orderly _ _ _) fun bytes =>
      keeps_bind (keeps_change (orderly_finishRead index bytes.length tick)) fun _ => keeps_pure _
  · exact keeps_failWhen_bind fun _ => keeps_bind (readContents_orderly _ _ _) fun bytes =>
      keeps_bind (keeps_change (orderly_finishRead index bytes.length tick)) fun _ => keeps_pure _

theorem readDirectoryOpen_orderly (length tick : Nat) :
    Keeps (Orderly clash) (readDirectoryOpen ownerPid handle length tick) := by
  refine keeps_state_bind fun _ => keeps_lift_bind fun index =>
    keeps_failWhen_bind fun _ => keeps_failWhen_bind fun _ =>
      keeps_bind (keeps_change fun before => ?_) fun _ => keeps_pure _
  have advanced := fun offset => @orderly_advance clash before index offset
  dsimp only
  split
  · exact advanced _
  · exact IsTrans.trans _ _ _ (advanced _) (orderly_modifyNode _ _ _)

theorem writeOpen_orderly (bytes : Bytes) (tick : Nat) :
    Keeps (Orderly clash) (writeOpen ownerPid handle bytes tick) := by
  have advances (index offset : Nat) : Keeps (Orderly clash)
      (change fun vfs => vfs.advance index offset : VfsCall Unit) :=
    keeps_change fun vfs => orderly_advance vfs index offset
  refine keeps_state_bind fun _ => keeps_lift_bind fun index =>
    keeps_failWhen_bind fun _ => keeps_ite ?_ ?_
  · exact keeps_bind (writePseudo_orderly _ _ _) fun _ => keeps_bind (advances index _) fun _ =>
      keeps_bind (touchWritten_orderly _ _ _) fun _ => keeps_pure _
  · exact keeps_lift_bind fun _ => keeps_bind (writeNodeLocked_orderly _ _ _ _ _) fun _ =>
      keeps_bind (advances index _) fun _ => keeps_pure _

theorem seek_orderly (offset : Int) (whence : Whence) :
    Keeps (Orderly clash) (seek ownerPid handle offset whence) :=
  keeps_state_bind fun _ => keeps_lift_bind fun index =>
    keeps_failWhen_bind fun _ => keeps_failWhen_bind fun _ =>
      keeps_failWhen_bind fun _ =>
        keeps_bind (keeps_change fun vfs => orderly_advance vfs index _) fun _ => keeps_pure _

theorem pollOpen_orderly (requested : BitVec 16) :
    Keeps (Orderly clash) (pollOpen ownerPid handle requested) := by
  refine keeps_state_bind fun _ => keeps_lift_bind fun _ =>
    keeps_ite (keeps_pure _) (keeps_lift_bind fun operations => ?_)
  split
  · exact keeps_pure _
  · exact keeps_bind countPseudoCall_orderly fun _ => keeps_lift _

theorem ioctlOpen_orderly (request argument : Nat) :
    Keeps (Orderly clash) (ioctlOpen ownerPid handle request argument) := by
  refine keeps_state_bind fun _ => keeps_lift_bind fun _ =>
    keeps_failWhen_bind fun _ => keeps_lift_bind fun operations => ?_
  split
  · exact keeps_fail _
  · exact keeps_bind countPseudoCall_orderly fun _ => keeps_lift _

theorem truncateOpen_orderly (size tick : Nat) :
    Keeps (Orderly clash) (truncateOpen ownerPid handle size tick) :=
  keeps_failWhen_bind fun _ => keeps_state_bind fun _ =>
    keeps_lift_bind fun _ => keeps_failWhen_bind fun _ =>
      keeps_lift_bind fun _ => keeps_change (orderly_truncateNodeLocked _ size tick)

theorem allocateOpen_orderly (offset length : Nat) (flags : AllocationFlags)
    (tick : Nat) : Keeps (Orderly clash) (allocateOpen ownerPid handle offset length flags tick) :=
  keeps_state_bind fun _ => keeps_lift_bind fun _ =>
    keeps_failWhen_bind fun _ => allocateNode_orderly _ _ _ _ _ _

/-! ### Cached pages -/

theorem orderly_releaseFilePageCacheEntryLocked (index : Nat) (vfs : Vfs) :
    Orderly clash vfs (releaseFilePageCacheEntryLocked index vfs).2 :=
  (dataOnly_releaseFilePageCacheEntryLocked index vfs).orderly

theorem setFilePageAllocator_orderly (allocator : FilePageAllocator) :
    Keeps (Orderly clash) (setFilePageAllocator allocator) :=
  keeps_state_bind fun _ => keeps_failWhen_bind fun _ =>
    keeps_change fun _ => SameNames.orderly ⟨rfl, rfl, rfl, rfl⟩

theorem orderly_countMapping (vfs : Vfs) (index node : Nat) (step : Nat → Nat) :
    Orderly clash vfs (vfs.countMapping index node step) := SameNames.orderly ⟨rfl, rfl, rfl, rfl⟩

variable (generation : Nat)

theorem pinFilePage_orderly (slot : Nat) :
    Keeps (Orderly clash) (pinFilePage node generation slot) := by
  refine keeps_of_keepsFrom fun before => keepsFrom_state (keepsFrom_failWhen fun _ =>
    keepsFrom_failWhen fun _ => keepsFrom_failWhen fun _ => ?_)
  refine keepsFrom_change_bind (dataOnly_cachedFilePageLocked node slot before).orderly
    (keepsFrom_failWhen fun _ => keepsFrom_state ?_)
  split
  · exact keepsFrom_fail _
  · rename_i index _
    exact keepsFrom_failWhen fun _ =>
      keepsFrom_change_bind (orderly_countMapping _ index node _) (keepsFrom_pure _)

theorem unpinFilePage_orderly (slot : Nat) :
    Keeps (Orderly clash) (unpinFilePage node generation slot) := by
  refine keeps_state_bind fun vfs => keeps_failWhen_bind fun _ =>
    keeps_failWhen_bind fun _ => ?_
  split
  · exact keeps_fail _
  · rename_i index _
    refine keeps_failWhen_bind fun _ => keeps_change fun before => ?_
    exact IsTrans.trans _ _ _ (orderly_countMapping before index node _)
      (orderly_maybeReclaimUnlinked _ node)

theorem orderly_reclaimDownTo (target rounds active : Nat) (vfs : Vfs) :
    Orderly clash vfs (reclaimDownTo target rounds active vfs).2 := by
  induction rounds generalizing active vfs with
  | zero => exact refl vfs
  | succ rounds hypothesis =>
    unfold reclaimDownTo
    split
    · exact refl vfs
    · split
      · exact refl vfs
      · rename_i index _
        have released := @orderly_releaseFilePageCacheEntryLocked clash index vfs
        split
        · rename_i outcome
          rwa [outcome] at released
        · rename_i outcome
          rw [outcome] at released
          exact Trans.trans released (hypothesis _ _)

theorem orderly_reclaimCleanFilePageCacheUnderPressure (freePages lowWatermark targetEntries : Nat)
    (vfs : Vfs) : Orderly clash vfs
      (reclaimCleanFilePageCacheUnderPressure freePages lowWatermark targetEntries vfs).2 := by
  unfold reclaimCleanFilePageCacheUnderPressure
  split
  · exact refl vfs
  · exact orderly_reclaimDownTo _ _ _ vfs

theorem orderly_releaseFilePageCache (vfs : Vfs) :
    Orderly clash vfs vfs.releaseFilePageCache.2 := by
  have each (indices : List Nat) (result : Nat × Vfs) :
      Orderly clash result.2 (indices.foldl releaseCleanPage result).2 := by
    induction indices generalizing result with
    | nil => exact refl result.2
    | cons index rest hypothesis =>
      refine IsTrans.trans _ _ _ ?_ (hypothesis (releaseCleanPage result index))
      unfold releaseCleanPage
      dsimp only
      split
      · exact refl result.2
      · exact orderly_releaseFilePageCacheEntryLocked index result.2
  exact each (List.range maximumFilePageCacheEntries) (0, vfs)

theorem orderly_clearDirtyNodePages (vfs : Vfs) :
    Orderly clash vfs (clearDirtyNodePages node vfs).2 := by
  unfold clearDirtyNodePages
  split
  · exact refl vfs
  · exact (dataOnly_clearDirtyNodePagesLocked vfs node).orderly

theorem orderly_clearDirtyWritableMountPages (vfs : Vfs) :
    Orderly clash vfs vfs.clearDirtyWritableMountPages := by
  refine foldl_keeps (fun before node => ?_) _ vfs
  unfold clearDirtyIfWritable
  dsimp only
  split
  · exact refl before
  · split
    · exact refl before
    · exact (dataOnly_clearDirtyNodePagesLocked before node).orderly

/-! ### Mounts -/

theorem orderly_discardDirtyMountPages (vfs : Vfs) (mountId : Nat) :
    Orderly clash vfs (vfs.discardDirtyMountPages mountId) := by
  refine foldl_keeps (fun before node => ?_) _ vfs
  unfold discardIfOnMount
  dsimp only
  split
  · exact refl before
  · exact (dataOnly_discardDirtyFilePagesLocked before node _).orderly

theorem remountReadOnly_orderly : Keeps (Orderly clash) (remountReadOnly mountId) := by
  refine keeps_state_bind fun _ => keeps_lift_bind fun index =>
    keeps_ite (keeps_pure _) (keeps_bind (keeps_change fun before => ?_) fun _ => keeps_pure _)
  exact IsTrans.trans _ _ _ (orderly_modifyMount before index _)
    (orderly_discardDirtyMountPages _ mountId)

theorem setMountBlockCapacity_orderly (blockSize totalBlocks freeBlocks : Nat) :
    Keeps (Orderly clash) (setMountBlockCapacity mountId blockSize totalBlocks freeBlocks) :=
  keeps_failWhen_bind fun _ => keeps_state_bind fun _ =>
    keeps_lift_bind fun index => keeps_failWhen_bind fun _ =>
      keeps_change fun before => orderly_modifyMount before index _

theorem mountIdAtPath_orderly : Keeps (Orderly clash) (mountIdAtPath cwd path) := by
  refine onNode_orderly fun node => keeps_state_bind fun _ => ?_
  split
  · exact keeps_pure _
  · exact keeps_fail _

theorem unmount_orderly : Keeps (Orderly clash) (unmount mountId) := by
  refine keeps_failWhen_bind fun _ => keeps_state_bind fun _ =>
    keeps_lift_bind fun index => keeps_failWhen_bind fun _ =>
      keeps_change fun before => ?_
  have emptied : Orderly clash before
      ((List.range maximumDentries).foldl (releaseOnMount mountId) before) := by
    refine foldl_keeps (fun vfs entry => ?_) _ before
    unfold releaseOnMount
    dsimp only
    split
    · exact refl vfs
    · exact orderly_releaseDentry vfs entry
  have destroyed : Orderly clash before (before.destroyMountNamespace mountId) := by
    refine IsTrans.trans _ _ _ emptied (foldl_keeps (fun vfs node => ?_) _ _)
    unfold reclaimOnMount
    split
    · exact orderly_reclaimNode vfs node
    · exact refl vfs
  exact IsTrans.trans _ _ _ destroyed (orderly_modifyMount _ index _)

end Orderly

/-- An entry left behind in a slot has the name of an entry of the mount point whose entries are
to move there. -/
def Clashes (vfs : Vfs) (root mountpoint : Nat) : Prop :=
  ∃ first < maximumDentries, ∃ second < maximumDentries, (vfs.dentries first).used = true ∧
    (vfs.dentries first).parent = root ∧
      vfs.dentryNamed mountpoint (vfs.dentries first).name second = true

/-- What migrates below a mount changes the mount of nodes only. -/
theorem sameNames_assignNodeMountRecursive (depth : Nat) (vfs : Vfs) (node : Nat) :
    SameNames vfs (assignNodeMountRecursive mountId depth vfs node) := by
  induction depth generalizing vfs node with
  | zero => exact refl vfs
  | succ depth hypothesis =>
    have assigned : SameNames vfs
        (vfs.modifyNode node fun entry => { entry with mountId := mountId }) := ⟨rfl, rfl, rfl, rfl⟩
    exact Trans.trans assigned
      (foldl_keeps (fun before index => hypothesis before (vfs.dentries index).node) _ _)

theorem migrateEntry_dentries {vfs : Vfs} {mountpoint root mountId index : Nat}
    (moves : ¬ ((vfs.dentries index).used = false ∨ (vfs.dentries index).parent ≠ mountpoint)) :
    (migrateEntry mountpoint root mountId vfs index).dentries =
      update vfs.dentries index { vfs.dentries index with parent := root } := by
  unfold migrateEntry
  rw [if_neg moves]
  exact (sameNames_assignNodeMountRecursive mountId maximumDentries _ _).dentries

/-- One entry moves below the root. It meets no namesake there, and leaves none behind. -/
theorem migrateEntry_names {vfs : Vfs} {mountpoint root mountId index : Nat}
    (below : index < maximumDentries) (unique : vfs.NamesUnique)
    (apart : ¬ vfs.Clashes root mountpoint) :
    (migrateEntry mountpoint root mountId vfs index).NamesUnique ∧
      ¬ (migrateEntry mountpoint root mountId vfs index).Clashes root mountpoint := by
  by_cases stays : (vfs.dentries index).used = false ∨ (vfs.dentries index).parent ≠ mountpoint
  · unfold migrateEntry
    rw [if_pos stays]
    exact ⟨unique, apart⟩
  have moved := @migrateEntry_dentries vfs mountpoint root mountId index stays
  simp only [not_or, Bool.not_eq_false, not_not] at stays
  obtain ⟨used, parentOf⟩ := stays
  have isNamed : vfs.dentryNamed mountpoint (vfs.dentries index).name index = true :=
    dentryNamed_iff.mpr ⟨used, parentOf, by simp [eqlIgnoreCase]⟩
  have elsewhere : root ≠ mountpoint := by
    rintro rfl
    exact apart ⟨index, below, index, below, used, parentOf, isNamed⟩
  constructor
  · refine unique.update moved fun _ other otherBelow _ => ?_
    by_contra named
    obtain ⟨usedOther, parentOther, sameName⟩ := dentryNamed_iff.mp (Bool.eq_true_of_not_eq_false named)
    exact apart ⟨other, otherBelow, index, below, usedOther, parentOther,
      dentryNamed_iff.mpr ⟨used, parentOf, eqlIgnoreCase_symm sameName⟩⟩
  · rintro ⟨first, belowFirst, second, belowSecond, usedFirst, parentFirst, named⟩
    rw [dentryNamed_iff, moved] at named
    rw [moved] at usedFirst parentFirst
    have unmoved : second ≠ index := by
      rintro rfl
      rw [update_self] at named
      exact elsewhere named.2.1
    rw [update_of_ne unmoved] at named
    obtain rfl | here := eq_or_ne first index
    · rw [update_self] at named
      exact unmoved (unique first below second belowSecond used (dentryNamed_iff.mpr
        ⟨named.1, named.2.1.trans parentOf.symm, named.2.2⟩)).symm
    · rw [update_of_ne here] at usedFirst parentFirst named
      exact apart ⟨first, belowFirst, second, belowSecond, usedFirst, parentFirst,
        dentryNamed_iff.mpr named⟩

theorem migrateMountChildren_names {mountpoint root mountId : Nat} (unique : vfs.NamesUnique)
    (apart : ¬ vfs.Clashes root mountpoint) :
    (vfs.migrateMountChildren mountpoint root mountId).NamesUnique := by
  have each (indices : List Nat) (slots : ∀ index ∈ indices, index < maximumDentries) (start : Vfs)
      (unique : start.NamesUnique) (apart : ¬ start.Clashes root mountpoint) :
      (indices.foldl (migrateEntry mountpoint root mountId) start).NamesUnique := by
    induction indices generalizing start with
    | nil => exact unique
    | cons index rest hypothesis =>
      obtain ⟨uniqueAfter, apartAfter⟩ := @migrateEntry_names start mountpoint root mountId index
        (slots index List.mem_cons_self) unique apart
      exact hypothesis (fun other member => slots other (List.mem_cons_of_mem _ member)) _
        uniqueAfter apartAfter
  exact each _ (fun _ => List.mem_range.mp) vfs unique apart

theorem orderly_migrateMountChildren (vfs : Vfs) (mountpoint root mountId : Nat) :
    Orderly (vfs.Clashes root mountpoint) vfs (vfs.migrateMountChildren mountpoint root mountId) := by
  have moved : Orderly True vfs (vfs.migrateMountChildren mountpoint root mountId) := by
    refine foldl_keeps (fun before index => ?_) _ vfs
    unfold migrateEntry
    split
    · exact refl before
    · have renamed := IsTrans.trans _ _ _ (@orderly_invalidateCachedDentry True before index)
        (@orderly_modifyDentry True _ index (fun entry => { entry with parent := root })
          fun _ => .inl trivial)
      exact IsTrans.trans _ _ _ renamed
        (sameNames_assignNodeMountRecursive mountId maximumDentries _ _).orderly
  refine moved.refine fun unique => ?_
  by_cases clashes : vfs.Clashes root mountpoint
  · exact .inl clashes
  · exact .inr (migrateMountChildren_names unique clashes)

theorem orderly_installMount (vfs : Vfs) (index root mountpoint : Nat) (kind : MountKind)
    (readonly : Bool) (source : Bytes) : Orderly (vfs.Clashes root mountpoint) vfs
      (vfs.installMount index root mountpoint kind readonly source) := by
  let placed := vfs.modifyNode root fun old =>
    mountRootEntry (nextGeneration old.generation) (index + 1) (vfs.nodes mountpoint)
  let mounted := placed.modifyMount index fun _ =>
    { used := true
      id := index + 1
      parentId := (vfs.nodes mountpoint).mountId
      mountpointNode := mountpoint
      rootNode := root
      kind := kind
      readonly := readonly
      source := source }
  have installed : Orderly (vfs.Clashes root mountpoint) vfs mounted :=
    IsTrans.trans _ _ _ (orderly_modifyNode vfs root _) (orderly_modifyMount placed index _)
  have moved : Orderly (vfs.Clashes root mountpoint) mounted
      (mounted.migrateMountChildren mountpoint root (index + 1)) :=
    orderly_migrateMountChildren mounted mountpoint root (index + 1)
  have migrated := IsTrans.trans _ _ _ installed moved
  unfold installMount
  dsimp only
  split
  · exact IsTrans.trans _ _ _ migrated (orderly_discardDirtyMountPages _ (index + 1))
  · exact migrated

/-- The same tables without anything cached. -/
def uncached (vfs : Vfs) : Vfs := { vfs with dentryCache := fun _ => {} }

theorem uncached_alike (unique : vfs.NamesUnique) : Alike vfs vfs.uncached :=
  ⟨unique, fun _ => {}, vfs.dentryCacheClock, rfl⟩

/-- A mount on the path would bring two entries of one name together: its root takes a slot in
which an entry was left behind that has the name of an entry of the mount point. -/
def MountClashes (vfs : Vfs) (cwd : Nat) (path : Bytes) : Prop :=
  ∃ root entry, vfs.freeNode = .ok root ∧ (entryForPathAs cwd path {} vfs.uncached).1 = .ok entry ∧
    vfs.Clashes root (vfs.dentries entry).node

variable (kind : MountKind)

theorem mount_orderly (readonly : Bool) (source : Bytes) (vfs : Vfs) :
    KeepsFrom (Orderly (vfs.MountClashes cwd path)) vfs (mount cwd path kind readonly source) := by
  refine keepsFrom_failWhen fun _ => keepsFrom_bind (entryForPathAs_orderly cwd path {} vfs)
    fun entry found lookup => ?_
  have same := entryForPathAs_sameTables cwd path {} vfs
  rw [lookup] at same
  refine keepsFrom_state (keepsFrom_failWhen fun _ => keepsFrom_failWhen fun _ =>
    keepsFrom_failWhen fun _ => keepsFrom_lift fun index _ => keepsFrom_lift fun root free =>
      keepsFrom_change_bind ?_ (keepsFrom_pure _))
  have installed := orderly_installMount found index root (found.dentries entry).node kind readonly source
  refine ⟨fun unique => (installed.names unique).imp_left fun clashes => ?_, installed.references,
    installed.events⟩
  have agreed := ((uncached_alike (same.symm.namesUnique unique)).entryForPathAs cwd path {}).1
  rw [lookup] at agreed
  obtain ⟨cache, clock, rfl⟩ := same
  exact ⟨root, entry, free, agreed.symm, clashes⟩

variable {clash : Prop}

/-- Where the mount point has to be empty there is nothing to meet a namesake. -/
theorem mountEmpty_orderly (readonly : Bool)
    (source : Bytes) : Keeps (Orderly clash) (mountEmpty cwd path kind readonly source) := by
  refine keeps_of_keepsFrom fun before => keepsFrom_bind (entryForPathAs_orderly cwd path {} before)
    fun entry found lookup => keepsFrom_state (keepsFrom_failWhen fun _ =>
      keepsFrom_failWhen fun childless => ?_)
  have same := entryForPathAs_sameTables cwd path {} before
  rw [lookup] at same
  have mounted := mount_orderly cwd path kind readonly source found
  refine ⟨fun unique => ?_, mounted.references, mounted.events⟩
  rcases mounted.names unique with ⟨root, again, _, relookup, clashes⟩ | uniqueAfter
  · -- The second lookup finds the same entry, and nothing lies below its node.
    have alike := Alike.lookups ⟨same.symm.namesUnique unique, refl before⟩
      (refl before) (Trans.trans same (uncached_alike unique).same)
    have agreed := (alike.entryForPathAs cwd path {}).1
    rw [lookup, relookup] at agreed
    cases agreed
    obtain ⟨_, _, second, below, _, _, named⟩ := clashes
    obtain ⟨used, parentOf, -⟩ := dentryNamed_iff.mp named
    refine absurd ?_ childless
    obtain ⟨child, found⟩ := @Scan.exists_firstIndex maximumDentries second (fun index =>
      (found.dentries index).used && (found.dentries index).parent == (found.dentries entry).node)
      below (by simp [used, parentOf])
    simp [hasChildren, found]
  · exact .inr uniqueAfter

/-! ### All calls -/

theorem Request.run_orderly
    (request : Request) : Keeps (Orderly clash) (request.run cwd path credentials) := by
  -- A question about a node only looks at it.
  have asks {Value : Type} (answer : Nat → Vfs → Except Error Value) : Keeps (Orderly clash) (do
      let node ← resolveAs cwd path credentials
      let vfs ← state
      lift (answer node vfs)) :=
    onNode_orderly fun _ => keeps_state_bind fun _ => keeps_lift _
  have views (wanted : Access) : Keeps (Orderly clash) (do
      let node ← resolveAs cwd path credentials
      let vfs ← state
      lift (vfs.requireAccessNode node credentials wanted)
      fileViewNode node) :=
    onNode_orderly fun node => keeps_state_bind fun _ => keeps_lift_bind fun _ =>
      fileViewNode_orderly node
  cases request with
  | resolve => exact resolveAs_orderly cwd path credentials
  | resolveNoFollow => exact resolveInternalAs_orderly cwd path false credentials
  | resolveDirectory =>
    exact onNode_orderly fun _ => keeps_state_bind fun _ => keeps_failWhen_bind fun _ =>
      keeps_lift_bind fun _ => keeps_pure _
  | stat => exact asks fun node vfs => vfs.statNode node
  | ownership => exact asks fun node vfs => vfs.ownershipNode node
  | timestamps => exact asks fun node vfs => vfs.timestampsNode node
  | statFilesystem =>
    exact onNode_orderly fun _ => keeps_state_bind fun _ => keeps_failWhen_bind fun _ =>
      keeps_pure _
  | list =>
    exact onNode_orderly fun _ => keeps_state_bind fun _ => keeps_failWhen_bind fun _ =>
      keeps_lift_bind fun _ => keeps_failWhen_bind fun _ => keeps_pure _
  | readlink outputLength tick => exact readlinkAs_orderly cwd path outputLength credentials tick
  | read offset length => exact readAs_orderly cwd path offset length credentials
  | readOnlyView => exact views { read := true }
  | executableView => exact views { execute := true }
  | chmod mode tick => exact chmodAs_orderly cwd path mode credentials tick
  | mkdir mode tick => exact mkdirOwned_orderly cwd path mode credentials tick
  | create mode tick => exact createOwned_orderly cwd path mode credentials tick
  | symlink target tick => exact symlinkOwned_orderly cwd target path credentials tick
  | link newPath tick => exact linkAs_orderly cwd path newPath credentials tick
  | unlink tick => exact unlinkAs_orderly cwd path credentials tick
  | rmdir tick => exact rmdirAs_orderly cwd path credentials tick
  | rename newPath tick => exact renameAs_orderly cwd path newPath credentials tick
  | openFile ownerPid flags mode tick =>
    exact openOwned_orderly ownerPid cwd path flags mode credentials tick

/-- A mount is the only call that can bring two entries of one name together. -/
def Operation.Clashes : Operation → Vfs → Prop
  | .mount cwd path .., vfs => vfs.MountClashes cwd path
  | _, _ => False

theorem Operation.apply_orderly (operation : Operation) (vfs : Vfs) :
    Orderly (operation.Clashes vfs) vfs (operation.apply vfs) := by
  cases operation with
  | byPath cwd path credentials request => exact request.run_orderly cwd path credentials vfs
  | createPseudoWithOperations cwd path mode tick operations context =>
    exact createPseudoWithOperations_orderly cwd path mode tick operations context vfs
  | publishPseudoRegistration mountRoot name mode tick operations context =>
    exact publishPseudoRegistration_orderly mountRoot name mode tick operations context vfs
  | withdrawPseudoRegistration mountRoot name =>
    exact withdrawPseudoRegistration_orderly mountRoot name vfs
  | createBackedFileWithOperations cwd path size mode tick operations context =>
    exact createBackedFileWithOperations_orderly cwd path size mode tick operations context vfs
  | ensureDirectory cwd path mode tick =>
    exact resolveOr_orderly cwd path {} (mkdirOwned_orderly cwd path mode {} tick) vfs
  | putFile cwd path bytes mode readonly tick =>
    exact putFile_orderly cwd path bytes mode readonly tick vfs
  | restoreSparseFile cwd path mode size allocationBitmap allocatedData tick =>
    exact restoreSparseFile_orderly cwd path mode size allocationBitmap allocatedData tick vfs
  | restoreOwnership cwd path restored => exact restoreOwnership_orderly cwd path restored vfs
  | restoreTimestamps cwd path restored => exact restoreTimestamps_orderly cwd path restored vfs
  | write cwd path offset bytes truncateFirst tick =>
    exact write_orderly cwd path offset bytes truncateFirst tick vfs
  | append cwd path bytes tick => exact append_orderly cwd path bytes tick vfs
  | truncate cwd path size tick => exact truncate_orderly cwd path size tick vfs
  | allocate cwd path offset length flags tick =>
    exact allocate_orderly cwd path offset length flags tick vfs
  | mount cwd path kind readonly source => exact mount_orderly cwd path kind readonly source vfs
  | mountEmpty cwd path kind readonly source =>
    exact mountEmpty_orderly cwd path kind readonly source vfs
  | remountReadOnly mountId => exact remountReadOnly_orderly mountId vfs
  | setMountBlockCapacity mountId blockSize totalBlocks freeBlocks =>
    exact setMountBlockCapacity_orderly mountId blockSize totalBlocks freeBlocks vfs
  | mountIdAtPath cwd path => exact mountIdAtPath_orderly cwd path vfs
  | unmount mountId => exact unmount_orderly mountId vfs
  | close ownerPid handle => exact close_orderly ownerPid handle vfs
  | closeAll ownerPid => exact orderly_closeAll ownerPid vfs
  | readOpen ownerPid handle length tick => exact readOpenInternal_orderly ownerPid handle length tick vfs
  | readDirectoryOpen ownerPid handle length tick =>
    exact readDirectoryOpen_orderly ownerPid handle length tick vfs
  | writeOpen ownerPid handle bytes tick => exact writeOpen_orderly ownerPid handle bytes tick vfs
  | seek ownerPid handle offset whence => exact seek_orderly ownerPid handle offset whence vfs
  | pollOpen ownerPid handle requested => exact pollOpen_orderly ownerPid handle requested vfs
  | ioctlOpen ownerPid handle request argument =>
    exact ioctlOpen_orderly ownerPid handle request argument vfs
  | truncateOpen ownerPid handle size tick => exact truncateOpen_orderly ownerPid handle size tick vfs
  | allocateOpen ownerPid handle offset length flags tick =>
    exact allocateOpen_orderly ownerPid handle offset length flags tick vfs
  | setFilePageAllocator allocator => exact setFilePageAllocator_orderly allocator vfs
  | pinFilePage node generation slot => exact pinFilePage_orderly node generation slot vfs
  | unpinFilePage node generation slot => exact unpinFilePage_orderly node generation slot vfs
  | reclaimCleanFilePageCacheUnderPressure freePages lowWatermark targetEntries =>
    exact orderly_reclaimCleanFilePageCacheUnderPressure freePages lowWatermark targetEntries vfs
  | releaseFilePageCache => exact orderly_releaseFilePageCache vfs
  | clearDirtyNodePages node => exact orderly_clearDirtyNodePages node vfs
  | clearDirtyWritableMountPages => exact orderly_clearDirtyWritableMountPages vfs

/-! ### All runs -/

/-- The states that admitted calls lead to from a fresh filesystem. -/
inductive Reached (admitted : Operation → Vfs → Prop) : Vfs → Prop where
  | fresh : Reached admitted Vfs.initialized
  | call {vfs : Vfs} (reached : Reached admitted vfs) (operation : Operation)
    (admits : admitted operation vfs) : Reached admitted (operation.apply vfs)

/-- No mount of the run makes entries of one name meet. -/
def NoClash (operation : Operation) (vfs : Vfs) : Prop := ¬ operation.Clashes vfs

theorem initialized_namesUnique : Vfs.initialized.NamesUnique := by
  intro first _ _ _ used _
  cases used

theorem Reached.namesUnique (reached : Reached NoClash vfs) : vfs.NamesUnique := by
  induction reached with
  | fresh => exact initialized_namesUnique
  | @call vfs _ operation apart hypothesis =>
    exact ((operation.apply_orderly vfs).names hypothesis).resolve_left apart

/-- Between two calls no reference is held, whatever the calls were. -/
theorem Reached.references {admitted : Operation → Vfs → Prop} (reached : Reached admitted vfs)
    (index : Nat) : (vfs.dentryCache index).Settled ∧ (vfs.dentryCache index).references = 0 := by
  induction reached with
  | fresh => exact ⟨fun _ => rfl, rfl⟩
  | @call vfs _ operation _ hypothesis =>
    obtain ⟨settled, none⟩ := hypothesis
    obtain ⟨settledAfter, kept, -⟩ := (operation.apply_orderly vfs).references index settled
    exact ⟨settledAfter, kept.trans none⟩

/-- When no mount of the run makes entries of one name meet, every lookup names the entry that
the scan names, also in the middle of a call, and every call gives its references back. -/
theorem Reached.lookups_transparent {vfs : Vfs} (reached : Reached NoClash vfs) :
    (∀ during, SameTables vfs during → during.CacheTransparent) ∧
      ∀ index, (vfs.dentryCache index).references = 0 :=
  ⟨fun _ same => (same.namesUnique reached.namesUnique).cacheTransparent,
    fun index => (reached.references index).2⟩

/-- A directory with a file in it, about to be mounted over. -/
def filled : Vfs :=
  Operation.apply (.byPath 0 [slash, 97, slash, 102] {} (.create 0o644 1))
    (Operation.apply (.byPath 0 [slash, 97] {} (.mkdir 0o755 1)) Vfs.initialized)

theorem filled_mount_transparent :
    (Operation.apply (.mount 0 [slash, 97] .ramfs false []) filled).CacheTransparent := by
  have made : Reached NoClash filled := .call (.call .fresh _ id) _ id
  refine (Reached.lookups_transparent (made.call _ ?_)).1 _ (refl _)
  rintro ⟨root, entry, free, -, first, below, -, -, used, parentOf, -⟩
  have third : filled.freeNode = .ok 3 := by decide +kernel
  obtain rfl : 3 = root := Except.ok.inj (third.symm.trans free)
  have childless : ∀ index < maximumDentries, (filled.dentries index).used = true →
      (filled.dentries index).parent ≠ 3 := by decide +kernel
  exact childless first below used parentOf

/-- A file with names in two directories is left behind when both are mounted over and the first
mount is taken back. -/
def crossed : List Operation :=
  [.byPath 0 [slash, 120] {} (.mkdir 0o755 1), .byPath 0 [slash, 120, slash, 102] {} (.create 0o644 1),
    .byPath 0 [slash, 97] {} (.mkdir 0o755 1), .byPath 0 [slash, 98] {} (.mkdir 0o755 1),
    .byPath 0 [slash, 97, slash, 102] {} (.create 0o644 1),
    .byPath 0 [slash, 97, slash, 102] {} (.link [slash, 98, slash, 102] 1),
    .mount 0 [slash, 97] .ramfs false [], .byPath 0 [slash, 97, slash, 102] {} .resolve,
    .mount 0 [slash, 98] .ramfs false [], .unmount 2, .mount 0 [slash, 120] .ramfs false []]

theorem reached_foldl (operations : List Operation) (reached : Reached (fun _ _ => True) vfs) :
    Reached (fun _ _ => True) (operations.foldl (fun vfs operation => operation.apply vfs) vfs) := by
  induction operations generalizing vfs with
  | nil => exact reached
  | cons operation rest hypothesis =>
    exact hypothesis (reached.call operation trivial)

/-- The last mount takes the slot of the first one. The cache names the entry that was left
behind there, the scan names the one that has just been moved there. -/
theorem crossed_lookup : ¬ ∀ vfs, Reached (fun _ _ => True) vfs →
    ∀ parent name, vfs.nodeUsed parent = true → (vfs.nodes parent).kind = .directory →
      name.length ≤ 31 → (acquireDentry parent name vfs).1.map DentryReference.dentry =
        vfs.findDentryUncached parent name := by
  intro transparent
  have same := transparent _ (reached_foldl crossed .fresh) 6 [102] (by decide +kernel)
    (by decide +kernel) (by decide)
  have cached : (acquireDentry 6 [102] (crossed.foldl (fun vfs operation => operation.apply vfs)
      Vfs.initialized)).1.map DentryReference.dentry = some 4 := by decide +kernel
  have scanned : (crossed.foldl (fun vfs operation => operation.apply vfs)
      Vfs.initialized).findDentryUncached 6 [102] = some 1 := by decide +kernel
  rw [cached, scanned] at same
  cases same

end Vfs

end ZigOs.RuntimeVfs
