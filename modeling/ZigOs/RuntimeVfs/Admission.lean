/-
This file says what the filesystem asks of a new name and of a new mount. Both look
up where the path leads and then check the tables. Each goes through exactly when all
of its checks do; otherwise the tables stay as they were. What goes through takes a
free slot of the node table, and the slot's generation shows it from then on.
-/

import ZigOs.RuntimeVfs.Turnover

namespace ZigOs.RuntimeVfs

open Scan Call Function

namespace Vfs

/-! ### Slots that are taken -/

/-- The nodes in use stay in use, and each stays in its slot. -/
def Stays (before after : Vfs) : Prop :=
  ∀ node, (before.nodes node).used = true →
    (after.nodes node).used = true ∧ (after.nodes node).generation = (before.nodes node).generation

instance : IsTrans Vfs Stays where
  trans _ _ _ start finish := fun node used =>
    ⟨(finish node (start node used).1).1,
      (finish node (start node used).1).2.trans (start node used).2⟩

variable {before after : Vfs}

theorem SameOccupants.stays (same : SameOccupants before after) : Stays before after := by
  intro node used
  have usedOf := congrArg Occupant.used (same.occupant node)
  exact ⟨usedOf.trans used, congrArg Occupant.generation (same.occupant node)⟩

theorem SameTables.stays (same : SameTables before after) :
    Stays before after := same.sameOccupants.stays

/-- Beside the nodes in use there is one more, in a slot whose generation moved on. -/
structure Places (before after : Vfs) : Prop where
  stays : Stays before after
  placed : ∃ node, (after.nodes node).used = true ∧
    (after.nodes node).generation ≠ (before.nodes node).generation

theorem Places.later {before middle after : Vfs} (places : Places before middle)
    (stays : Stays middle after) : Places before after := by
  obtain ⟨node, used, moved⟩ := places.placed
  obtain ⟨still, same⟩ := stays node used
  exact ⟨Trans.trans places.stays stays, node, still, same ▸ moved⟩

theorem Places.earlier {middle : Vfs} (same : SameTables before middle)
    (places : Places middle after) : Places before after := by
  obtain ⟨cache, clock, rfl⟩ := same
  exact ⟨places.stays, places.placed⟩

theorem nextGeneration_ne (generation : Nat) : nextGeneration generation ≠ generation := by
  unfold nextGeneration nextNonzero wrapIncrement
  split <;> omega

variable {vfs : Vfs} {node : Nat}

theorem places_modifyNode {step : Node → Node} (free : vfs.freeNode = .ok node)
    (used : (step (vfs.nodes node)).used = true)
    (generation : (step (vfs.nodes node)).generation = nextGeneration (vfs.nodes node).generation) :
    Places vfs (vfs.modifyNode node step) := by
  refine ⟨fun other inUse => ?_, node, ?_, ?_⟩
  · have elsewhere : other ≠ node := by
      rintro rfl
      exact Bool.false_ne_true ((freeNode_unused free).symm.trans inUse)
    rw [modifyNode_of_ne vfs step elsewhere]
    exact ⟨inUse, rfl⟩
  · rwa [modifyNode_self]
  · rw [modifyNode_self, generation]
    exact nextGeneration_ne _

/-! ### New names -/

/-- The directory takes a new node under this name. -/
structure AdmitsName (vfs : Vfs) (parent : Nat) (name : Bytes) : Prop where
  directory : ∃ visible, vfs.validateDirectory parent = .ok visible
  unnamed : ∀ dentry < maximumDentries, vfs.dentryNamed parent name dentry = false
  writable : ¬((vfs.nodes parent).readonly = true ∨
    vfs.mountReadonly (vfs.nodes parent).mountId = true)
  node : ∃ node, vfs.freeNode = .ok node
  dentry : ∃ entry, vfs.freeDentry = .ok entry

/-- How such a call ends: refused with the tables as they were, or with one more node. -/
inductive Admission (admitted : Prop) (vfs : Vfs) : Except Error Nat → Vfs → Prop where
  | refused {failure : Error} {after : Vfs} (denied : ¬admitted) (same : SameTables vfs after) :
    Admission admitted vfs (.error failure) after
  | made {value : Nat} {after : Vfs} (allowed : admitted) (places : Places vfs after) :
    Admission admitted vfs (.ok value) after

theorem places_installNode (entry parent : Nat) (name : Bytes) (new : NewNode)
    (free : vfs.freeNode = .ok node) : Places vfs (vfs.installNode node entry parent name new) := by
  have placed : Places vfs (vfs.modifyNode node fun old =>
      new.entry (nextGeneration old.generation) (vfs.nodes parent).mountId) :=
    places_modifyNode free rfl rfl
  refine placed.later (SameOccupants.stays ?_)
  exact Trans.trans (sameOccupants_modifyDentry _ entry _) (IsTrans.trans _ _ _
    (sameOccupants_touch _ parent new.tick)
    (sameOccupants_recordDirectoryChange _ parent node .created name))

theorem findDentry_ok (parent : Nat) (name : Bytes) (vfs : Vfs) (failure : Error) :
    (findDentry parent name vfs).1 ≠ .error failure := by
  simp only [findDentry]
  split
  all_goals
    intro impossible
    cases impossible

theorem createNode_admission {vfs : Vfs} {parent : Nat} {name : Bytes} {new : NewNode}
    (stored : validStoredMode new.mode = true) :
    Yields (Admission (vfs.AdmitsName parent name) vfs) vfs (createNode parent name new) := by
  have refl : SameTables vfs vfs := refl vfs
  have same := findDentry_sameTables parent name vfs
  refine yields_state (yields_lift (fun failure missing => ?_) fun visible directory => ?_)
  · refine .refused (fun admits => ?_) refl
    obtain ⟨visible, found⟩ := admits.directory
    rw [missing] at found
    cases found
  refine yields_failWhen (fun unstored => ?_) fun _ => ?_
  · rw [stored] at unstored
    cases unstored
  refine yields_bind (fun failure after lookup => ?_) fun existing found lookup => ?_
  · exact absurd (congrArg Prod.fst lookup) (findDentry_ok parent name vfs failure)
  rw [lookup] at same
  refine yields_failWhen (fun taken => ?_) fun missing => yields_state ?_
  · obtain ⟨dentry, rfl⟩ := Option.isSome_iff_exists.mp taken
    obtain ⟨below, named⟩ := findDentry_some lookup
    refine .refused (fun admits => ?_) same
    rw [admits.unnamed dentry below] at named
    cases named
  obtain rfl : existing = none := by simpa using missing
  have unnamed := findDentry_none lookup
  obtain ⟨cache, clock, rfl⟩ := same
  refine yields_failWhen (fun readonly => ?_) fun writable => ?_
  · exact .refused (fun admits => admits.writable readonly.1) ⟨cache, clock, rfl⟩
  refine yields_lift (fun _ impossible => by cases impossible) fun _ _ =>
    yields_failWhen (fun impossible => by cases impossible.1) fun _ => ?_
  refine yields_lift (fun failure full => ?_) fun node freeNode => ?_
  · refine .refused (fun admits => ?_) ⟨cache, clock, rfl⟩
    obtain ⟨node, free⟩ := admits.node
    cases full.symm.trans free
  refine yields_lift (fun failure full => ?_) fun entry freeDentry => ?_
  · refine .refused (fun admits => ?_) ⟨cache, clock, rfl⟩
    obtain ⟨entry, free⟩ := admits.dentry
    cases full.symm.trans free
  refine yields_change (yields_pure (.made ?_ ?_))
  · exact ⟨⟨visible, directory⟩, unnamed, fun readonly => writable ⟨readonly, rfl⟩,
      ⟨node, freeNode⟩, entry, freeDentry⟩
  · exact Places.earlier ⟨cache, clock, rfl⟩ (places_installNode entry parent name new freeNode)

/-- The path leads to a directory that takes a new node under the last name of the path. -/
def Takes (vfs : Vfs) (cwd : Nat) (path : Bytes) : Prop :=
  ∃ parent name found, parentAndNameAs cwd path {} vfs = (.ok (parent, name), found) ∧
    vfs.AdmitsName parent name

theorem SameTables.admits (same : SameTables before after) (parent : Nat)
    (name : Bytes) : after.AdmitsName parent name ↔ before.AdmitsName parent name := by
  obtain ⟨cache, clock, rfl⟩ := same
  exact ⟨fun ⟨directory, unnamed, writable, node, dentry⟩ =>
      ⟨directory, unnamed, writable, node, dentry⟩,
    fun ⟨directory, unnamed, writable, node, dentry⟩ =>
      ⟨directory, unnamed, writable, node, dentry⟩⟩

variable {cwd : Nat} {path : Bytes}

/-- A creation at the end of a path. -/
theorem createAt_admission {create : Nat × Bytes → VfsCall Nat}
    (creates : ∀ place found, Yields (Admission (found.AdmitsName place.1 place.2) found) found
      (create place)) : Yields (Admission (vfs.Takes cwd path) vfs) vfs
      (parentAndNameAs cwd path {} >>= create) := by
  have same := parentAndNameAs_sameTables cwd path {} vfs
  refine yields_bind (fun failure after lost => ?_) fun place found led => ?_
  · rw [lost] at same
    refine .refused (fun takes => ?_) same
    obtain ⟨parent, name, found, led, -⟩ := takes
    rw [lost] at led
    cases congrArg Prod.fst led
  · rw [led] at same
    refine (creates place found).imp fun result after made => ?_
    cases made with
    | refused denied unchanged =>
      refine .refused (fun takes => ?_) (Trans.trans same unchanged)
      obtain ⟨parent, name, other, leads, admits⟩ := takes
      rw [led] at leads
      obtain ⟨places, -⟩ := Prod.mk.inj leads
      rw [Except.ok.inj places] at denied
      exact denied ((same.admits parent name).mpr admits)
    | made admits places =>
      exact .made ⟨place.1, place.2, found, led, (same.admits _ _).mp admits⟩ (places.earlier same)

variable {mode : BitVec 16} {tick : Nat}

theorem mkdir_admission (stored : validStoredMode mode = true) :
    Yields (Admission (vfs.Takes cwd path) vfs) vfs (mkdir cwd path mode tick) :=
  createAt_admission fun _ _ => createNode_admission stored

theorem createBackedFile_admission {size context : Nat} {operations : PseudoOperations}
    (stored : validStoredMode mode = true) (reads : operations.read.isSome = true)
    (only : operations.write = none) (plain : operations.stream = none) :
    Yields (Admission (vfs.Takes cwd path) vfs) vfs
      (createBackedFileWithOperations cwd path size mode tick operations context) := by
  have sized (start : Vfs) (node : Nat) : SameOccupants start (start.setSize node size) :=
    sameOccupants_modifyNode start node fun _ => rfl
  have attached (start : Vfs) (node : Nat) :
      SameOccupants start (start.setPseudo node (some operations) context) :=
    sameOccupants_modifyNode start node fun _ => rfl
  refine yields_failWhen (fun unsupported => ?_) fun _ =>
    createAt_admission fun place found => ?_
  · rw [only, plain] at unsupported
    simp [Option.isSome_iff_ne_none.mp reads] at unsupported
  · have made := @createNode_admission found place.1 place.2
      { kind := .file, mode, readonly := true, tick } stored
    refine yields_bind (fun failure after run => ?_) fun node after run =>
      yields_change (yields_pure ?_)
    · rwa [Yields, run] at made
    · rw [Yields, run] at made
      cases made with
      | made admits places =>
        exact .made admits (places.later (Trans.trans (sized after node)
          (attached _ node)).stays)

/-! ### New mounts -/

/-- The directory can become the root of a mount. -/
structure TakesMount (vfs : Vfs) (mountpoint : Nat) : Prop where
  directory : (vfs.nodes mountpoint).kind = .directory
  uncovered : vfs.mountAtNode mountpoint = none
  clear : vfs.mountBelow mountpoint = false
  slot : ∃ index, vfs.freeMount = .ok index
  root : ∃ node, vfs.freeNode = .ok node

/-- The source fits its field, and the path ends in the name of a directory that can become the
root of a mount. -/
def Mountable (vfs : Vfs) (cwd : Nat) (path source : Bytes) : Prop :=
  source.length ≤ 32 ∧ ∃ entry found, entryForPathAs cwd path {} vfs = (.ok entry, found) ∧
    vfs.TakesMount (vfs.dentries entry).node

variable {index : Nat} {kind : MountKind} {readonly : Bool} {source : Bytes}

theorem places_installMount {root mountpoint : Nat} (free : vfs.freeNode = .ok root) :
    Places vfs (vfs.installMount index root mountpoint kind readonly source) := by
  have placed : Places vfs (vfs.modifyNode root fun old =>
      mountRootEntry (nextGeneration old.generation) (index + 1) (vfs.nodes mountpoint)) :=
    places_modifyNode free rfl rfl
  have mounted (start : Vfs) (step : Mount → Mount) : Stays start (start.modifyMount index step) :=
    fun _ used => ⟨used, rfl⟩
  have migrated (start : Vfs) :
      SameOccupants start (start.migrateMountChildren mountpoint root (index + 1)) :=
    foldl_keeps (sameOccupants_migrateEntry mountpoint root (index + 1)) _ start
  have discarded (start : Vfs) : SameOccupants start (start.discardDirtyMountPages (index + 1)) :=
    sameOccupants_discardDirtyMountPages start (index + 1)
  unfold installMount
  dsimp only
  split
  · exact ((placed.later (mounted _ _)).later (migrated _).stays).later (discarded _).stays
  · exact (placed.later (mounted _ _)).later (migrated _).stays

/-- Of the mounts only the new one's slot changes. -/
theorem installMount_mounts (vfs : Vfs) (index root mountpoint : Nat) (kind : MountKind)
    (readonly : Bool) (source : Bytes) :
    (vfs.installMount index root mountpoint kind readonly source).mounts = update vfs.mounts index
        { used := true
          id := index + 1
          parentId := (vfs.nodes mountpoint).mountId
          mountpointNode := mountpoint
          rootNode := root
          kind := kind
          readonly := readonly
          source := source } := by
  have migrated (start : Vfs) : SameOccupants start
      (start.migrateMountChildren mountpoint root (index + 1)) :=
    foldl_keeps (sameOccupants_migrateEntry mountpoint root (index + 1)) _ start
  unfold installMount
  dsimp only
  split
  · exact (sameOccupants_discardDirtyMountPages _ (index + 1)).mounts.trans (migrated _).mounts
  · exact (migrated _).mounts

theorem SameTables.climbsTo (same : SameTables before after) (ancestor steps current : Nat) :
    after.climbsTo ancestor steps current = before.climbsTo ancestor steps current := by
  obtain ⟨cache, clock, rfl⟩ := same
  induction steps generalizing current with
  | zero => rfl
  | succ steps hypothesis =>
    unfold Vfs.climbsTo
    simp only [hypothesis]
    rfl

theorem SameTables.mountBelow (same : SameTables before after) (node : Nat) :
    after.mountBelow node = before.mountBelow node := by
  have climbs (current : Nat) := same.climbsTo node maximumNodes current
  obtain ⟨cache, clock, rfl⟩ := same
  simp only [Vfs.mountBelow, isDescendant, climbs]

theorem mount_admission : Yields (Admission (vfs.Mountable cwd path source) vfs) vfs
      (mount cwd path kind readonly source) := by
  have same := entryForPathAs_sameTables cwd path {} vfs
  refine yields_failWhen (fun long => ?_) fun short => ?_
  · exact .refused (fun mountable => absurd mountable.1 (Nat.not_le.mpr long)) (refl vfs)
  refine yields_bind (fun failure after lost => ?_) fun entry found led => ?_
  · rw [lost] at same
    refine .refused (fun mountable => ?_) same
    obtain ⟨-, entry, found, led, -⟩ := mountable
    rw [lost] at led
    cases congrArg Prod.fst led
  rw [led] at same
  have below := same.mountBelow (vfs.dentries entry).node
  obtain ⟨cache, clock, rfl⟩ := same
  -- The entry is the one the path leads to, so a check that fails refuses the mount.
  have refused {failure : Error} (denied : ¬vfs.TakesMount (vfs.dentries entry).node) :
      Admission (vfs.Mountable cwd path source) vfs (.error failure)
        { vfs with dentryCache := cache, dentryCacheClock := clock } := by
    refine .refused (fun mountable => ?_) ⟨cache, clock, rfl⟩
    obtain ⟨-, other, found, leads, takes⟩ := mountable
    rw [led] at leads
    cases (congrArg Prod.fst leads)
    exact denied takes
  refine yields_state (yields_failWhen (fun other => refused fun takes => ?_)
    fun directory => yields_failWhen (fun covered => refused fun takes => ?_) fun uncovered =>
      yields_failWhen (fun lower => refused fun takes => ?_) fun clear => ?_)
  · exact other takes.directory
  · have covering : (vfs.mountAtNode (vfs.dentries entry).node).isSome = true := covered
    rw [takes.uncovered] at covering
    cases covering
  · rw [below, takes.clear] at lower
    cases lower
  refine yields_lift (fun failure full => refused fun takes => ?_) fun index slot =>
    yields_lift (fun failure full => refused fun takes => ?_) fun root free =>
      yields_change (yields_pure (.made ?_ ?_))
  · obtain ⟨index, slot⟩ := takes.slot
    cases full.symm.trans slot
  · obtain ⟨root, free⟩ := takes.root
    cases full.symm.trans free
  · refine ⟨Nat.not_lt.mp short, entry, _, led, not_not.mp directory, ?_, ?_, ⟨index, slot⟩, root, free⟩
    · exact Option.not_isSome_iff_eq_none.mp uncovered
    · rw [below] at clear
      exact Bool.eq_false_of_not_eq_true clear
  · exact Places.earlier ⟨cache, clock, rfl⟩ (places_installMount free)

/-- The identifier of a new mount leads to its slot. -/
theorem mount_slot :
    Gives (fun mountId after => ∃ index, mountId ≠ 0 ∧ after.mountSlot mountId = .ok index ∧
      (after.mounts index).kind = kind) vfs (mount cwd path kind readonly source) := by
  have looked : Gives (fun _ _ => True) vfs (entryForPathAs cwd path {}) :=
    fun _ _ _ => trivial
  refine gives_failWhen fun _ => gives_bind looked fun entry found _ => gives_state
    (gives_failWhen fun _ => gives_failWhen fun _ => gives_failWhen fun _ => ?_)
  refine gives_lift fun index slot => gives_lift fun root free =>
    gives_change (gives_pure ?_)
  have below : index < maximumMounts := by
    unfold freeMount at slot
    split at slot
    · rename_i first seen
      cases slot
      exact firstIndex_lt seen
    · cases slot
  have installed := installMount_mounts found index root (found.dentries entry).node kind readonly
    source
  refine ⟨index, Nat.succ_ne_zero index, ?_, ?_⟩
  · unfold mountSlot
    rw [if_neg (Nat.succ_ne_zero index), if_neg]
    · rfl
    · rw [Nat.add_sub_cancel, installed, update_self]
      exact not_or.mpr ⟨Nat.not_le.mpr below, Bool.noConfusion⟩
  · rw [installed, update_self]

theorem setMountBlockCapacity_ok {mountId blockSize totalBlocks freeBlocks : Nat}
    (real : mountId ≠ 0) (slot : vfs.mountSlot mountId = .ok index)
    (kind : (vfs.mounts index).kind = .bootFat) (size : blockSize ≠ 0)
    (fewer : freeBlocks ≤ totalBlocks) :
    ∃ after, setMountBlockCapacity mountId blockSize totalBlocks freeBlocks vfs = (.ok (), after) := by
  refine ⟨vfs.modifyMount index fun entry =>
    { entry with
      capacityBlockSize := blockSize
      capacityTotalBlocks := totalBlocks
      capacityFreeBlocks := freeBlocks
      capacityConfigured := true }, ?_⟩
  unfold setMountBlockCapacity
  rw [bind_failWhen, if_neg, bind_state, slot, bind_lift_ok, bind_failWhen,
    if_neg (not_not.mpr kind)]
  · rfl
  · exact not_or.mpr ⟨real, not_or.mpr ⟨size, Nat.not_lt.mpr fewer⟩⟩

/-- No slot of the node table changes its generation. -/
def SameGenerations (before after : Vfs) : Prop :=
  ∀ node, (after.nodes node).generation = (before.nodes node).generation

instance : Std.Refl SameGenerations where
  refl _ := fun _ => rfl

instance : IsTrans Vfs SameGenerations where
  trans _ _ _ start finish := fun node => (finish node).trans (start node)

theorem sameGenerations_reclaimNode (vfs : Vfs) (node : Nat) :
    SameGenerations vfs (vfs.reclaimNode node) := by
  obtain ⟨middle, data, same⟩ := reclaimNode_steps vfs node
  rw [same]
  intro other
  have kept := congrArg Occupant.generation (data.sameOccupants.occupant other)
  obtain rfl | here := eq_or_ne other node
  · rwa [modifyNode_self]
  · rwa [modifyNode_of_ne _ _ here]

/-- A mount that is taken down empties slots and leaves their generations. -/
theorem unmount_sameGenerations (mountId : Nat) : Keeps SameGenerations (unmount mountId) := by
  refine keeps_failWhen_bind fun _ => keeps_state_bind fun _ =>
    keeps_lift_bind fun index => keeps_bind (keeps_failWhen _ _)
      fun _ => keeps_change fun before => ?_
  have released : SameGenerations before
      ((List.range maximumDentries).foldl (releaseOnMount mountId) before) := by
    refine foldl_keeps (fun start index => ?_) _ before
    unfold releaseOnMount
    dsimp only
    split
    · exact refl start
    · exact fun _ => rfl
  have emptied (start : Vfs) : SameGenerations start
      ((List.range' 1 (maximumNodes - 1)).foldl (reclaimOnMount mountId) start) := by
    refine foldl_keeps (fun start node => ?_) _ start
    unfold reclaimOnMount
    split
    · exact sameGenerations_reclaimNode start node
    · exact refl start
  have destroyed : SameGenerations before (before.destroyMountNamespace mountId) := by
    unfold destroyMountNamespace
    exact Trans.trans released (emptied _)
  have freed (start : Vfs) : SameGenerations start (start.modifyMount index fun _ => {}) :=
    fun _ => rfl
  exact Trans.trans destroyed (freed _)

end Vfs

end ZigOs.RuntimeVfs
