/-
This file says when an open that fails leaves the filesystem as it was. The
open makes the file and cuts it before it checks the access bits and looks for
a slot in the table of open files, and it undoes neither. What it did stays
exactly when something was made or cut and a later check refuses the call.
-/

import ZigOs.RuntimeVfs.Turnover

namespace ZigOs.RuntimeVfs

open Scan Call

namespace Vfs

/-- No node, no name and no block of contents differs. -/
structure Untouched (before after : Vfs) : Prop where
  nodes : after.nodes = before.nodes
  dentries : after.dentries = before.dentries
  dataBlocks : after.dataBlocks = before.dataBlocks

instance : Std.Refl Untouched where
  refl _ := ⟨rfl, rfl, rfl⟩

instance : IsTrans Vfs Untouched where
  trans _ _ _ start finish :=
    ⟨finish.nodes.trans start.nodes, finish.dentries.trans start.dentries,
      finish.dataBlocks.trans start.dataBlocks⟩

theorem SameTables.untouched {before after : Vfs} (same : SameTables before after) :
    Untouched before after := by
  obtain ⟨cache, clock, rfl⟩ := same
  exact ⟨rfl, rfl, rfl⟩

variable {first second : Vfs}

/-- A lookup more or less makes no difference to what was touched. -/
theorem SameTables.untouched_iff (same : SameTables first second) (before : Vfs) :
    Untouched before second ↔ Untouched before first := by
  obtain ⟨cache, clock, rfl⟩ := same
  exact ⟨fun untouched => ⟨untouched.nodes, untouched.dentries, untouched.dataBlocks⟩,
    fun untouched => ⟨untouched.nodes, untouched.dentries, untouched.dataBlocks⟩⟩

theorem SameTables.untouched_from (same : SameTables first second) (after : Vfs) :
    Untouched first after ↔ Untouched second after := by
  obtain ⟨cache, clock, rfl⟩ := same
  exact ⟨fun untouched => ⟨untouched.nodes, untouched.dentries, untouched.dataBlocks⟩,
    fun untouched => ⟨untouched.nodes, untouched.dentries, untouched.dataBlocks⟩⟩

/-! ### When an open is clean -/

/-- An open with these flags cuts the node. -/
def Truncates (vfs : Vfs) (node : Nat) (flags : OpenFlags) : Prop :=
  (vfs.nodes node).kind ≠ .directory ∧ (vfs.nodes node).kind ≠ .pseudo ∧ flags.truncate ∧ flags.write

/-- Cutting the node changes nothing: it is empty and was last changed at this very tick. -/
def AlreadyCut (vfs : Vfs) (node tick : Nat) : Prop :=
  (vfs.nodes node).size = 0 ∧ (vfs.nodes node).modifiedTick = tick ∧
    (vfs.nodes node).changedTick = tick

/-- The second half of an open goes through: the path names a node and the owner gets a slot. -/
def Admits (vfs : Vfs) (ownerPid cwd : Nat) (path : Bytes) (owner : Ownership) : Prop :=
  (resolveAs cwd path owner vfs).1.isOk = true ∧ (vfs.freeOpen ownerPid).isOk = true

/-- A new file of this mode lets its creator do what the open asks for. -/
def GrantsCreator (mode : BitVec 16) (owner : Ownership) (flags : OpenFlags) : Prop :=
  owner.uid = 0 ∨ ((flags.read → (mode >>> 6) &&& 7 &&& 4 ≠ 0) ∧
    (flags.write → (mode >>> 6) &&& 7 &&& 2 ≠ 0))

/-- An open that finds its node does not fail after it has cut it. -/
def CutsCleanly (vfs : Vfs) (node ownerPid cwd : Nat) (path : Bytes) (flags : OpenFlags)
    (owner : Ownership) (tick : Nat) : Prop :=
  (vfs.requireOpenable node flags owner).isOk = false ∨ ¬ vfs.Truncates node flags ∨
    vfs.AlreadyCut node tick ∨ (truncateOnOpen node flags tick vfs).Admits ownerPid cwd path owner

/-- An open that has to make its node does not fail after it has made it. -/
def CreatesCleanly (vfs : Vfs) (ownerPid cwd : Nat) (path : Bytes) (flags : OpenFlags)
    (mode : BitVec 16) (owner : Ownership) (tick : Nat) : Prop :=
  ∀ node created, createOwned cwd path mode owner tick vfs = (.ok node, created) →
    GrantsCreator mode owner flags ∧
      (truncateOnOpen node flags tick created).Admits ownerPid cwd path owner

/-- The open does not fail after its first effect. -/
def OpensCleanly (vfs : Vfs) (ownerPid cwd : Nat) (path : Bytes) (flags : OpenFlags)
    (mode : BitVec 16) (owner : Ownership) (tick : Nat) : Prop :=
  (flags.read = false ∧ flags.write = false) ∨
    match resolveAs cwd path owner vfs with
    | (.ok node, found) => found.CutsCleanly node ownerPid cwd path flags owner tick
    | (.error .notFound, missed) =>
      flags.create = false ∨ missed.CreatesCleanly ownerPid cwd path flags mode owner tick
    | (.error _, _) => True

/-! ### What a cut touches -/

theorem untouched_releaseFilePageCacheEntryLocked (index : Nat) (vfs : Vfs) :
    Untouched vfs (releaseFilePageCacheEntryLocked index vfs).2 := by
  unfold releaseFilePageCacheEntryLocked
  dsimp only
  repeat' split
  all_goals exact ⟨rfl, rfl, rfl⟩

variable (vfs : Vfs) (node : Nat)

theorem untouched_invalidateFilePageCacheNode :
    Untouched vfs (vfs.invalidateFilePageCacheNode node) := by
  refine foldl_keeps (fun before index => ?_) _ vfs
  unfold refreshPage
  dsimp only
  split
  · exact refl before
  · split
    · exact ⟨rfl, rfl, rfl⟩
    · exact untouched_releaseFilePageCacheEntryLocked index before

theorem untouched_trimDirtyFilePagesLocked : Untouched vfs (vfs.trimDirtyFilePagesLocked node) := by
  unfold trimDirtyFilePagesLocked discardDirtyFilePagesLocked
  dsimp only
  split
  · exact refl vfs
  · exact ⟨rfl, rfl, rfl⟩

variable {tick : Nat}

theorem entry_cut_eq {node : Node} (empty : node.size = 0) (modified : node.modifiedTick = tick)
    (changed : node.changedTick = tick) :
    { node with size := 0, modifiedTick := tick, changedTick := tick } = node := by
  cases node
  simp_all

/-- Cutting a file to nothing goes without a trace only when it was just cut before. -/
theorem truncateNodeLocked_untouched_iff (tick : Nat) :
    Untouched vfs (truncateNodeLocked node 0 tick vfs) ↔ vfs.AlreadyCut node tick := by
  have settles (sized : Vfs) : Untouched sized
      ((sized.invalidateFilePageCacheNode node).trimDirtyFilePagesLocked node) :=
    Trans.trans (untouched_invalidateFilePageCacheNode sized node)
      (untouched_trimDirtyFilePagesLocked _ node)
  have unmarked : truncateNodeLocked node 0 tick vfs = ((((if 0 < (vfs.nodes node).size
      then vfs.shrinkBlocks node 0 else vfs).setSize node 0).touch node
        tick).invalidateFilePageCacheNode node).trimDirtyFilePagesLocked node := by
    simp [truncateNodeLocked]
  constructor
  · intro untouched
    have cut := congrFun untouched.nodes node
    rw [unmarked, (settles _).nodes] at cut
    simp only [touch, setSize, modifyNode_self] at cut
    exact ⟨(congrArg Node.size cut).symm, (congrArg Node.modifiedTick cut).symm,
      (congrArg Node.changedTick cut).symm⟩
  · rintro ⟨empty, modified, changed⟩
    rw [unmarked, if_neg (by omega)]
    have same : ((vfs.setSize node 0).touch node tick).nodes = vfs.nodes := by
      funext other
      obtain rfl | here := eq_or_ne other node
      · simp only [touch, setSize, modifyNode_self]
        exact entry_cut_eq empty modified changed
      · simp only [touch, setSize, modifyNode_of_ne _ _ here]
    have recut : Untouched vfs ((vfs.setSize node 0).touch node tick) := ⟨same, rfl, rfl⟩
    exact Trans.trans recut (settles _)

theorem truncateOnOpen_untouched_iff (flags : OpenFlags) (tick : Nat) :
    Untouched vfs (truncateOnOpen node flags tick vfs) ↔
      ¬ vfs.Truncates node flags ∨ vfs.AlreadyCut node tick := by
  by_cases truncates : vfs.Truncates node flags
  · have cuts : truncateOnOpen node flags tick vfs = truncateNodeLocked node 0 tick vfs :=
      if_pos truncates
    rw [cuts, truncateNodeLocked_untouched_iff]
    exact ⟨.inr, fun either => either.resolve_left (not_not.mpr truncates)⟩
  · have keeps : truncateOnOpen node flags tick vfs = vfs := if_neg truncates
    rw [keeps]
    exact ⟨fun _ => .inl truncates, fun _ => refl vfs⟩

/-! ### What a creation leaves -/

/-- A creation by path is refused after lookups at most, or installs a node in a parent. -/
theorem createOwned_cases (cwd : Nat) (path : Bytes) (mode : BitVec 16) (owner : Ownership)
    (tick : Nat) (vfs : Vfs) :
    (∃ failure after, createOwned cwd path mode owner tick vfs = (.error failure, after) ∧
      SameTables vfs after) ∨
    ∃ parent name found node entry, SameTables vfs found ∧
      Creates found parent name { kind := .file, mode, owner, tick } false node entry ∧
      createOwned cwd path mode owner tick vfs = (.ok node,
        found.installNode node entry parent name { kind := .file, mode, owner, tick }) := by
  have reached := parentAndNameAs_sameTables cwd path owner vfs
  unfold createOwned
  rw [bind_apply]
  rcases lookup : parentAndNameAs cwd path owner vfs with ⟨failure | ⟨parent, name⟩, middle⟩
  · rw [lookup] at reached
    exact .inl ⟨failure, middle, rfl, reached⟩
  · rw [lookup] at reached
    have ending := createNodeInternal_cases parent name { kind := .file, mode, owner, tick } false middle
    dsimp only
    unfold Yields at ending
    unfold createNode
    generalize createNodeInternal parent name { kind := .file, mode, owner, tick } false middle =
      outcome at ending
    obtain ⟨result, after⟩ := outcome
    cases ending with
    | refused same => exact .inl ⟨_, _, rfl, Trans.trans reached same⟩
    | made same creates =>
      exact .inr ⟨_, _, _, _, _, Trans.trans reached same, creates, rfl⟩

variable {vfs : Vfs} {parent node entry : Nat} {name : Bytes}

/-- The new node of a file, as its later checks see it. -/
theorem installNode_self {new : NewNode} {privileged : Bool}
    (creates : Creates vfs parent name new privileged node entry) :
    (vfs.installNode node entry parent name new).nodes node =
      new.entry (nextGeneration (vfs.nodes node).generation) (vfs.nodes parent).mountId := by
  have apart : node ≠ parent := by
    rintro rfl
    obtain ⟨visible, directory⟩ := creates.directory
    have unused := freeNode_unused creates.freeNode
    simp [validateDirectory, nodeLinked, nodeUsed, unused] at directory
  simp only [installNode, recordDirectoryChange, touch, initializeDentry, modifyDentry,
    modifyNode_of_ne _ _ apart]
  exact modifyNode_self _ _ _

theorem freeNode_below (free : vfs.freeNode = .ok node) : node < maximumNodes := by
  unfold freeNode at free
  split at free
  · rename_i first found
    cases free
    exact firstIndex_lt found
  · cases free

theorem requireAccessNode_isOk (vfs : Vfs) (node : Nat) (credentials : Ownership)
    (requested : Access) : (vfs.requireAccessNode node credentials requested).isOk = true ↔
      vfs.nodeLinked node = true ∧ (credentials.uid = 0 ∨
        ((requested.read = true → permissionBits (vfs.nodes node) credentials &&& 4 ≠ 0) ∧
          (requested.write = true → permissionBits (vfs.nodes node) credentials &&& 2 ≠ 0) ∧
            (requested.execute = true → permissionBits (vfs.nodes node) credentials &&& 1 ≠ 0))) := by
  unfold requireAccessNode accessAllowedNode
  obtain ⟨read, write, execute⟩ := requested
  generalize permissionBits (vfs.nodes node) credentials = bits
  by_cases linked : vfs.nodeLinked node = true
  · by_cases root : credentials.uid = 0
    · simp [linked, root, Except.isOk, Except.toBool]
    · by_cases reads : bits &&& 4#16 = 0#16 <;> by_cases writes : bits &&& 2#16 = 0#16 <;>
        by_cases executes : bits &&& 1#16 = 0#16 <;> cases read <;> cases write <;> cases execute <;>
          simp [linked, root, reads, writes, executes, Except.isOk, Except.toBool]
  · simp [linked, Except.isOk, Except.toBool]

variable {mode : BitVec 16}

/-- A new file opens for its creator when its mode grants what the flags ask for. -/
theorem requireOpenable_made {owner : Ownership} {flags : OpenFlags}
    (creates : Creates vfs parent name { kind := .file, mode, owner, tick } false node entry) :
    ((vfs.installNode node entry parent name { kind := .file, mode, owner, tick }).requireOpenable
      node flags owner).isOk = true ↔ GrantsCreator mode owner flags := by
  have made := installNode_self creates
  have below := freeNode_below creates.freeNode
  have writable := creates.writable rfl
  generalize placed : vfs.installNode node entry parent name { kind := .file, mode, owner, tick } =
    created at made ⊢
  have sameMounts : created.mountReadonly (vfs.nodes parent).mountId = false := by
    rwa [← placed]
  have linked : created.nodeLinked node = true := by
    simp [nodeLinked, nodeUsed, made, NewNode.entry, below]
  have mutableFile : created.requireMutableFile node = .ok () := by
    simp [requireMutableFile, nodeUsed, made, NewNode.entry, below, sameMounts]
  have bits : permissionBits (created.nodes node) owner = (mode >>> 6) &&& 7 := by
    simp [permissionBits, made, NewNode.entry]
  have kind : (created.nodes node).kind = .file := by
    simp [made, NewNode.entry]
  have checks : (created.requireOpenable node flags owner).isOk = true ↔
      (flags.read = true → (created.requireAccessNode node owner { read := true }).isOk = true) ∧
        (flags.write = true → (created.requireAccessNode node owner { write := true }).isOk = true) := by
    unfold requireOpenable
    simp only [kind]
    rcases created.requireAccessNode node owner { read := true } with _ | _ <;>
      rcases created.requireAccessNode node owner { write := true } with _ | _ <;>
        cases flags.read <;> cases flags.write <;>
          simp [mutableFile, Except.isOk, Except.toBool, bind, Except.bind, pure, Except.pure]
  rw [checks, requireAccessNode_isOk, requireAccessNode_isOk, bits]
  simp only [linked, true_and, GrantsCreator, ne_eq]
  by_cases root : owner.uid = 0
  · simp [root]
  · simp [root]

/-! ### The two halves of an open -/

/-- An open from the moment its node is known. -/
def openFound (ownerPid cwd : Nat) (path : Bytes) (flags : OpenFlags) (owner : Ownership)
    (tick node : Nat) : VfsCall Nat := do
  let vfs ← state
  lift (vfs.requireOpenable node flags owner)
  change (truncateOnOpen node flags tick)
  let node ← resolveAs cwd path owner
  let vfs ← state
  let index ← lift (vfs.freeOpen ownerPid)
  change fun vfs => vfs.installOpen index ownerPid node flags
  return makeHandle index (nextGeneration (vfs.openFiles index).generation)

/-- What a failing second half can leave: the state as it was when the checks refuse, the cut
state when the path is gone or the table is full. -/
theorem openFound_failed_iff {left : Vfs → Prop}
    (lookups : ∀ {first second}, SameTables first second → (left second ↔ left first))
    (ownerPid cwd : Nat) (path : Bytes) (flags : OpenFlags) (owner : Ownership) (tick node : Nat)
    (vfs : Vfs) :
    (∀ failure after, openFound ownerPid cwd path flags owner tick node vfs =
      (.error failure, after) → left after) ↔
    ((vfs.requireOpenable node flags owner).isOk = false → left vfs) ∧
      ((vfs.requireOpenable node flags owner).isOk = true →
        ¬ (truncateOnOpen node flags tick vfs).Admits ownerPid cwd path owner →
          left (truncateOnOpen node flags tick vfs)) := by
  have same := resolveAs_sameTables cwd path owner (truncateOnOpen node flags tick vfs)
  unfold openFound
  rw [bind_state, bind_apply, lift_apply]
  rcases vfs.requireOpenable node flags owner with failure | _
  · simp [Except.isOk, Except.toBool]
  · dsimp only
    rw [bind_change, bind_apply]
    unfold Admits
    rcases lookup : resolveAs cwd path owner (truncateOnOpen node flags tick vfs) with
      ⟨failure | found, reached⟩
    all_goals rw [lookup] at same
    · simp [Except.isOk, Except.toBool, lookups same]
    · dsimp only
      rw [bind_state, bind_apply, lift_apply]
      have sameFree : reached.freeOpen ownerPid =
          (truncateOnOpen node flags tick vfs).freeOpen ownerPid := by
        obtain ⟨cache, clock, rfl⟩ := same
        rfl
      rw [sameFree]
      rcases (truncateOnOpen node flags tick vfs).freeOpen ownerPid with failure | index
      · simp [Except.isOk, Except.toBool, lookups same]
      · simp [Except.isOk, Except.toBool]

section Opening

variable {ownerPid cwd : Nat} {path : Bytes} {flags : OpenFlags} {owner : Ownership}

variable {found : Vfs}

/-- Opening a node that was there. -/
theorem openFound_clean_iff (same : SameTables vfs found) (tick node : Nat) :
    (∀ failure after, openFound ownerPid cwd path flags owner tick node found =
      (.error failure, after) → Untouched vfs after) ↔
        found.CutsCleanly node ownerPid cwd path flags owner tick := by
  rw [openFound_failed_iff (fun more => more.untouched_iff vfs), same.untouched_from
    (truncateOnOpen node flags tick found), truncateOnOpen_untouched_iff]
  have start : Untouched vfs found := same.untouched
  unfold CutsCleanly
  cases opens : (found.requireOpenable node flags owner).isOk with
  | false => simp [start]
  | true =>
    simp only [Bool.true_eq_false, false_implies, true_implies, true_and, false_or]
    tauto

/-- Opening a node that was just made. -/
theorem openFound_made_clean_iff (same : SameTables vfs found)
    (creates : Creates found parent name { kind := .file, mode, owner, tick } false node entry) :
    (∀ failure after, openFound ownerPid cwd path flags owner tick node (found.installNode node entry
      parent name { kind := .file, mode, owner, tick }) = (.error failure, after) →
        Untouched vfs after) ↔
      GrantsCreator mode owner flags ∧ (truncateOnOpen node flags tick (found.installNode node entry
        parent name { kind := .file, mode, owner, tick })).Admits ownerPid cwd path owner := by
  have entryOf := installNode_self creates
  rw [openFound_failed_iff (fun more => more.untouched_iff vfs), ← requireOpenable_made creates]
  generalize found.installNode node entry parent name { kind := .file, mode, owner, tick } = created
    at entryOf ⊢
  have unused := freeNode_unused creates.freeNode
  -- The new node is in use from here on, and it was not before.
  have touched {after : Vfs} (used : (after.nodes node).used = true) : ¬ Untouched vfs after := by
    intro untouched
    rw [same.untouched_from] at untouched
    rw [untouched.nodes, unused] at used
    cases used
  have isUsed : (created.nodes node).used = true := by
    simp [entryOf, NewNode.entry]
  have cutUsed : ((truncateOnOpen node flags tick created).nodes node).used = true := by
    unfold truncateOnOpen
    dsimp only
    split
    · rw [(dataOnly_truncateNodeLocked node 0 tick created).used, isUsed]
    · exact isUsed
  cases (created.requireOpenable node flags owner).isOk with
  | false => simp [touched isUsed]
  | true => simp [touched cutUsed]

/-- An open that has to make its file. -/
theorem created_clean_iff {missed : Vfs} (same : SameTables vfs missed) (mode : BitVec 16)
    (tick : Nat) : (∀ failure after, (createOwned cwd path mode owner tick >>=
      openFound ownerPid cwd path flags owner tick) missed = (.error failure, after) →
        Untouched vfs after) ↔
      missed.CreatesCleanly ownerPid cwd path flags mode owner tick := by
  unfold CreatesCleanly
  rcases createOwned_cases cwd path mode owner tick missed with
    ⟨failure, after, refused, sameAfter⟩ |
      ⟨parent, name, found, node, entry, sameFound, creates, made⟩
  · have untouched := (Trans.trans same sameAfter).untouched
    simp [bind_apply, refused, untouched]
  · rw [bind_apply, made]
    dsimp only
    rw [openFound_made_clean_iff (Trans.trans same sameFound) creates]
    constructor
    · rintro clean node created outcome
      obtain ⟨same, rfl⟩ := Prod.mk.inj outcome
      cases same
      exact clean
    · intro clean
      exact clean _ _ rfl

/-- A failing open leaves every node, name and block as it was, exactly when it does not fail
after its first effect. -/
theorem openOwned_clean_iff (vfs : Vfs) (ownerPid cwd : Nat) (path : Bytes) (flags : OpenFlags)
    (mode : BitVec 16) (owner : Ownership) (tick : Nat) :
    (∀ failure after, openOwned ownerPid cwd path flags mode owner tick vfs =
      (.error failure, after) → Untouched vfs after) ↔
        vfs.OpensCleanly ownerPid cwd path flags mode owner tick := by
  have halves : openOwned ownerPid cwd path flags mode owner tick =
      (failWhen (flags.read = false ∧ flags.write = false) .permissionDenied >>= fun _ =>
        resolveOr cwd path owner (if flags.create then createOwned cwd path mode owner tick
          else fail .notFound) >>= openFound ownerPid cwd path flags owner tick) := rfl
  unfold OpensCleanly
  rw [halves, bind_failWhen]
  by_cases blind : flags.read = false ∧ flags.write = false
  · simp [blind, refl (r := Untouched) vfs]
  · rw [if_neg blind]
    simp only [blind, false_or]
    have reached := resolveAs_sameTables cwd path owner vfs
    rw [bind_apply]
    unfold resolveOr
    rw [bind_attempt]
    rcases lookup : resolveAs cwd path owner vfs with ⟨failure | node, found⟩
    all_goals rw [lookup] at reached
    · by_cases missing : failure = .notFound
      · subst missing
        dsimp only
        by_cases creates : flags.create = true
        · have making : _ ↔ found.CreatesCleanly ownerPid cwd path flags mode owner tick :=
            created_clean_iff reached mode tick
          rw [bind_apply] at making
          simpa [creates] using making
        · simp [creates, reached.untouched]
      · have untouched := reached.untouched
        cases failure <;> first | exact absurd rfl missing | simp [untouched]
    · exact openFound_clean_iff reached tick node

end Opening

/-! ### An open that empties a file and fails -/

/-- A file with one byte, and an owner that has as many files open as it may. -/
def crowded : Vfs :=
  (List.range maximumOpenFilesPerOwner).foldl
    (fun vfs _ => (openOwned 7 0 [47] { read := true } 0o644 {} 2 vfs).2)
    (putFile 0 [47, 102] [1] 0o644 false 1 Vfs.initialized).2

/-- The open finds the table full and leaves the file without its byte. -/
theorem crowded_emptied : ¬ ∀ failure after,
    openOwned 7 0 [47, 102] { write := true, truncate := true } 0o644 {} 3 crowded =
      (.error failure, after) → Untouched crowded after := by
  intro clean
  have refused : (openOwned 7 0 [47, 102] { write := true, truncate := true } 0o644 {} 3 crowded).1 =
      .error .tooManyOpenFiles := by decide +kernel
  have emptied : ((openOwned 7 0 [47, 102] { write := true, truncate := true } 0o644 {} 3
      crowded).2.nodes 1).size ≠ (crowded.nodes 1).size := by decide +kernel
  rcases outcome : openOwned 7 0 [47, 102] { write := true, truncate := true } 0o644 {} 3 crowded
    with ⟨result, after⟩
  rw [outcome] at refused emptied
  obtain rfl : result = .error .tooManyOpenFiles := refused
  exact emptied (congrArg Node.size (congrFun (clean _ after outcome).nodes 1))

end Vfs

end ZigOs.RuntimeVfs
