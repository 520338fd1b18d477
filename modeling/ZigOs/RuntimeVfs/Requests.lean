/-
This file goes through the calls of the filesystem that take credentials and
resolve a path. Whatever their outcome, every directory they searched let the
credentials search it, and a name that they created, removed or moved was and
is in a directory that the credentials may write.
-/

import ZigOs.RuntimeVfs.Search
import ZigOs.RuntimeVfs.Handles

namespace ZigOs.RuntimeVfs

open Call Function

namespace Vfs

/-! ### Where names change -/

/-- Every name that differs between the two states was and is in an allowed directory. -/
def NamesChangeIn (allowed : Nat → Prop) (before after : Vfs) : Prop :=
  ∀ index, after.dentries index = before.dentries index ∨
    ((before.dentries index).used = true → allowed (before.dentries index).parent) ∧
      ((after.dentries index).used = true → allowed (after.dentries index).parent)

variable {before vfs : Vfs} {index parent : Nat}

variable (tick : Nat) (name : Bytes)

section NamesChangeIn

variable {allowed : Nat → Prop}

instance : Std.Refl (NamesChangeIn allowed) where
  refl _ _ := Or.inl rfl

instance : IsTrans Vfs (NamesChangeIn allowed) where
  trans first second third start finish := fun index => by
    rcases start index with same | ⟨was, -⟩
    · rw [← same]
      exact finish index
    · rcases finish index with unmoved | ⟨-, becomes⟩
      · rcases start index with same | changed
        · exact Or.inl (unmoved.trans same)
        · rw [unmoved]
          exact Or.inr changed
      · exact Or.inr ⟨was, becomes⟩

variable {after : Vfs}

theorem namesChangeIn_of_eq (same : after.dentries = before.dentries) :
    NamesChangeIn allowed before after := fun index => .inl (congrFun same index)

theorem SameTables.namesChangeIn (same : SameTables before after) :
    NamesChangeIn allowed before after := by
  obtain ⟨cache, clock, rfl⟩ := same
  exact namesChangeIn_of_eq rfl

theorem DataOnly.namesChangeIn (data : DataOnly before after) :
    NamesChangeIn allowed before after := namesChangeIn_of_eq data.dentries

theorem keeps_namesChangeIn_of_sameTables {Value : Type} {call : VfsCall Value}
    (keeps : Keeps SameTables call) : Keeps (NamesChangeIn allowed) call :=
  fun vfs => (keeps vfs).namesChangeIn

/-- One name changes, in an allowed directory. -/
theorem namesChangeIn_of_update {entry : Dentry}
    (updated : after.dentries = update before.dentries index entry)
    (was : (before.dentries index).used = true → allowed (before.dentries index).parent)
    (becomes : entry.used = true → allowed entry.parent) : NamesChangeIn allowed before after := by
  intro other
  rw [updated]
  obtain rfl | here := eq_or_ne other index
  · rw [update_self]
    exact .inr ⟨was, becomes⟩
  · exact .inl (update_of_ne here _ _)

theorem detachOrReclaimEntry_dentries (vfs : Vfs) (index : Nat) :
    (vfs.detachOrReclaimEntry index).dentries =
      update vfs.dentries index { generation := (vfs.dentries index).generation } := by
  unfold detachOrReclaimEntry
  dsimp only
  split
  · obtain ⟨middle, data, reclaimed⟩ := reclaimNode_steps
      ((vfs.releaseDentry index).modifyNode (vfs.dentries index).node fun entry =>
        { entry with linkCount := entry.linkCount - 1 }) (vfs.dentries index).node
    rw [reclaimed]
    exact data.dentries
  · rfl

theorem dropEntry_names
    (held : (vfs.dentries index).used = true → allowed (vfs.dentries index).parent) :
    NamesChangeIn allowed vfs (vfs.dropEntry index tick) :=
  namesChangeIn_of_update (detachOrReclaimEntry_dentries _ index) held fun used => by cases used

theorem moveEntry_names (tick : Nat)
    (held : (vfs.dentries index).used = true → allowed (vfs.dentries index).parent)
    (target : allowed parent) : NamesChangeIn allowed vfs (vfs.moveEntry index parent name tick) := by
  have moved : (vfs.moveEntry index parent name tick).dentries = update vfs.dentries index
      { vfs.dentries index with parent := parent, name := name } := by
    unfold moveEntry
    dsimp only
    split <;> rfl
  exact namesChangeIn_of_update moved held fun _ => target

end NamesChangeIn

variable {cwd entry : Nat} {path : Bytes}

/-! ### The parent of a changing name is writable -/

section Writable

variable {credentials : Ownership} (nonroot : credentials.uid ≠ 0) {vfs after : Vfs}

theorem SameTables.writable (same : SameTables vfs after) (directory : Nat) :
    after.Writable credentials directory ↔ vfs.Writable credentials directory := by
  obtain ⟨cache, clock, rfl⟩ := same
  exact Iff.rfl

include nonroot

theorem parentAndNameAs_writable {name : Bytes}
    (outcome : parentAndNameAs cwd path credentials vfs = (.ok (parent, name), after)) :
    vfs.Writable credentials parent := by
  unfold parentAndNameAs at outcome
  obtain ⟨_, _, check, outcome⟩ := bind_ok_cases outcome
  obtain ⟨-, rfl⟩ := Prod.mk.inj check
  rw [bind_failWhen] at outcome
  split at outcome
  · cases outcome
  · rw [bind_failWhen] at outcome
    split at outcome
    · cases outcome
    · obtain ⟨directory, resolved, found, outcome⟩ := bind_ok_cases outcome
      have same := resolveAs_sameTables cwd (parentPath (trimmedPath path)) credentials vfs
      rw [found] at same
      rw [bind_state] at outcome
      obtain ⟨_, _, check, outcome⟩ := bind_ok_cases outcome
      obtain ⟨passed, rfl⟩ := Prod.mk.inj check
      obtain ⟨named, -⟩ := Prod.mk.inj outcome
      rw [← (Prod.mk.inj (Except.ok.inj named)).1, ← same.writable]
      exact (requireAccessNode_ok nonroot passed).2 rfl

/-- The entry that a path names stands in a writable directory. -/
theorem entryForPathAs_writable
    (outcome : entryForPathAs cwd path credentials vfs = (.ok entry, after)) :
    vfs.Writable credentials (after.dentries entry).parent := by
  unfold entryForPathAs at outcome
  obtain ⟨⟨parent, name⟩, resolved, found, outcome⟩ := bind_ok_cases outcome
  obtain ⟨answer, searched, lookup, outcome⟩ := bind_ok_cases outcome
  have same := findDentry_sameTables parent name resolved
  rw [lookup] at same
  have writable := parentAndNameAs_writable nonroot found
  cases answer with
  | none => cases outcome
  | some dentry =>
    obtain ⟨answered, rfl⟩ := Prod.mk.inj outcome
    cases answered
    have named := (findDentry_some lookup).2
    simp only [dentryNamed, Bool.and_eq_true, beq_iff_eq] at named
    obtain ⟨cache, clock, rfl⟩ := same
    rwa [named.1.2]

end Writable

/-! ### What each call does to the names -/

section Names

variable {allowed : Nat → Prop}

theorem freeDentry_unused (free : vfs.freeDentry = .ok entry) :
    (vfs.dentries entry).used = false := by
  unfold freeDentry at free
  split at free
  · rename_i index chosen
    cases free
    simpa using Scan.firstIndex_test chosen
  · cases free

theorem createNode_names (new : NewNode) (target : allowed parent) :
    Keeps (NamesChangeIn allowed) (createNode parent name new) := by
  refine keeps_of_keepsFrom fun before => keepsFrom_state ?_
  refine keepsFrom_lift fun _ _ => keepsFrom_failWhen fun _ => ?_
  refine keepsFrom_bind (findDentry_sameTables parent name before).namesChangeIn fun _ found _ => ?_
  refine keepsFrom_failWhen fun _ => keepsFrom_state (keepsFrom_failWhen fun _ => ?_)
  refine keepsFrom_lift fun _ _ => keepsFrom_failWhen fun _ => ?_
  refine keepsFrom_lift fun node _ => keepsFrom_lift fun entry free => ?_
  refine keepsFrom_change_bind ?_ (keepsFrom_pure _)
  refine namesChangeIn_of_update rfl (fun used => ?_) fun _ => target
  rw [freeDentry_unused free] at used
  cases used

theorem unlinkEntry_names (held : allowed (before.dentries index).parent) :
    KeepsFrom (NamesChangeIn allowed) before (unlinkEntry index tick) := by
  refine keepsFrom_state (keepsFrom_failWhen fun _ => keepsFrom_failWhen fun _ =>
    keepsFrom_failWhen fun _ => keepsFrom_change ?_)
  exact dropEntry_names tick fun _ => held

theorem removeEntry_names (held : allowed (before.dentries index).parent) :
    KeepsFrom (NamesChangeIn allowed) before (removeEntry index tick) := by
  refine keepsFrom_state (keepsFrom_failWhen fun _ => keepsFrom_failWhen fun _ =>
    keepsFrom_failWhen fun _ => keepsFrom_failWhen fun _ => keepsFrom_change ?_)
  exact dropEntry_names tick fun _ => held

variable (node offset length : Nat)

theorem readPseudo_names : Keeps (NamesChangeIn allowed) (readPseudo node offset length) := by
  refine keeps_state_bind fun vfs => keeps_lift_bind fun operations => ?_
  cases operations.read with
  | none => exact keeps_fail _
  | some readFn =>
    exact keeps_bind (fun _ => namesChangeIn_of_eq rfl) fun _ => keeps_lift _

theorem readContents_names : Keeps (NamesChangeIn allowed) (readContents node offset length) :=
  fun vfs => (readContents_dataOnly node offset length vfs).namesChangeIn

theorem fileViewNode_names : Keeps (NamesChangeIn allowed) (fileViewNode node) :=
  keeps_state_bind fun _ => keeps_failWhen_bind fun _ =>
    keeps_failWhen_bind fun _ => readContents_names _ _ _

end Names

/-! ### The calls with their lookups written down -/

/-- The calls that resolve a path for given credentials. -/
inductive Request where
  | resolve | resolveNoFollow | resolveDirectory
  | stat | ownership | timestamps | statFilesystem | list
  | readlink (outputLength tick : Nat)
  | read (offset length : Nat)
  | readOnlyView | executableView
  | chmod (mode : BitVec 16) (tick : Nat)
  | mkdir (mode : BitVec 16) (tick : Nat)
  | create (mode : BitVec 16) (tick : Nat)
  | symlink (target : Bytes) (tick : Nat)
  | link (newPath : Bytes) (tick : Nat)
  | unlink (tick : Nat)
  | rmdir (tick : Nat)
  | rename (newPath : Bytes) (tick : Nat)
  | openFile (ownerPid : Nat) (flags : OpenFlags) (mode : BitVec 16) (tick : Nat)

abbrev Request.Value : Request → Type
  | .stat => Stat
  | .ownership => Ownership
  | .timestamps => Timestamps
  | .statFilesystem => FilesystemStats
  | .list => List DirectoryRecord
  | .readlink .. | .read .. | .readOnlyView | .executableView => Bytes
  | .chmod .. | .unlink _ | .rmdir _ | .rename .. => Unit
  | _ => Nat

def Request.run (cwd : Nat) (path : Bytes) (credentials : Ownership) :
    (request : Request) → VfsCall request.Value
  | .resolve => resolveAs cwd path credentials
  | .resolveNoFollow => resolveNoFollowAs cwd path credentials
  | .resolveDirectory => resolveDirectoryAs cwd path credentials
  | .stat => statAs cwd path credentials
  | .ownership => ownershipAs cwd path credentials
  | .timestamps => timestampsAs cwd path credentials
  | .statFilesystem => statFilesystemAs cwd path credentials
  | .list => listAs cwd path credentials
  | .readlink outputLength tick => readlinkAs cwd path outputLength credentials tick
  | .read offset length => readAs cwd path offset length credentials
  | .readOnlyView => readOnlyViewAs cwd path credentials
  | .executableView => executableViewAs cwd path credentials
  | .chmod mode tick => chmodAs cwd path mode credentials tick
  | .mkdir mode tick => mkdirOwned cwd path mode credentials tick
  | .create mode tick => createOwned cwd path mode credentials tick
  | .symlink target tick => symlinkOwned cwd target path credentials tick
  | .link newPath tick => linkAs cwd path newPath credentials tick
  | .unlink tick => unlinkAs cwd path credentials tick
  | .rmdir tick => rmdirAs cwd path credentials tick
  | .rename newPath tick => renameAs cwd path newPath credentials tick
  | .openFile ownerPid flags mode tick => openOwned ownerPid cwd path flags mode credentials tick

/-- Resolve a path and then work on the node without looking anything up. -/
def onNode {Value : Type} (cwd : Nat) (path : Bytes) (followFinal : Bool) (credentials : Ownership)
    (rest : Nat → VfsCall Value) : SearchCall Value := do
  let node ← resolveRecorded cwd path followFinal credentials
  quietly (rest node)

/-- Create a node: its name is looked up in the parent just written down, and nowhere else. -/
def createRecorded (cwd : Nat) (path : Bytes) (credentials : Ownership) (new : NewNode) :
    SearchCall Nat := do
  let (parent, name) ← parentAndNameRecorded cwd path credentials
  quietly (createNode parent name new)

def linkRecorded (cwd : Nat) (oldPath newPath : Bytes) (credentials : Ownership) (tick : Nat) :
    SearchCall Nat := do
  quietly (lift (validatePathBounds oldPath))
  quietly (lift (validatePathBounds newPath))
  let node ← resolveRecorded cwd oldPath false credentials
  let vfs ← quietly Call.state
  quietly (failWhen ((vfs.nodes node).kind = .directory) .isDirectory)
  quietly (failWhen ((vfs.nodes node).kind ≠ .file) .unsupportedOperation)
  let (parent, name) ← parentAndNameRecorded cwd newPath credentials
  quietly do
    let vfs ← Call.state
    failWhen ((vfs.nodes node).mountId ≠ (vfs.nodes parent).mountId) .crossMount
    failWhen ((vfs.nodes node).readonly ∨ vfs.mountReadonly (vfs.nodes node).mountId ∨
      (vfs.nodes parent).readonly) .readOnly
    let existing ← findDentry parent name
    failWhen existing.isSome .alreadyExists
    let vfs ← Call.state
    failWhen ((vfs.nodes node).linkCount = 0xFFFF) .noSpace
    let entry ← lift vfs.freeDentry
    change fun vfs =>
      (((vfs.initializeDentry entry parent node name).modifyNode node fun old =>
        { old with linkCount := old.linkCount + 1, changedTick := tick }).touch parent
          tick).recordDirectoryChange parent node .created name
    return node

def renameRecorded (cwd : Nat) (oldPath newPath : Bytes) (credentials : Ownership) (tick : Nat) :
    SearchCall Unit := do
  quietly (lift (validatePathBounds oldPath))
  quietly (lift (validatePathBounds newPath))
  let sourceEntry ← entryForPathRecorded cwd oldPath credentials
  let vfs ← quietly Call.state
  let source := (vfs.dentries sourceEntry).node
  let sourceParent := (vfs.dentries sourceEntry).parent
  quietly (failWhen (vfs.mountAtNode source).isSome .busy)
  let (parent, name) ← parentAndNameRecorded cwd newPath credentials
  quietly do
    let vfs ← Call.state
    failWhen ((vfs.nodes source).mountId ≠ (vfs.nodes parent).mountId) .crossMount
    failWhen ((vfs.nodes source).readonly ∨ vfs.mountReadonly (vfs.nodes source).mountId ∨
      (vfs.nodes parent).readonly) .readOnly
    failWhen ((vfs.nodes source).kind = .directory ∧ vfs.isDescendant parent source) .cycle
    let target ← findDentry parent name
    let vfs ← Call.state
    match target with
    | some targetEntry =>
      if targetEntry = sourceEntry ∨ (vfs.dentries targetEntry).node = source then return ()
      else do
        lift (vfs.requireStickyRemoval sourceParent source credentials)
        lift (vfs.requireReplacement targetEntry parent source credentials)
        change fun vfs =>
          (vfs.replaceEntry targetEntry parent tick).moveEntry sourceEntry parent name tick
    | none => do
      lift (vfs.requireStickyRemoval sourceParent source credentials)
      change fun vfs => vfs.moveEntry sourceEntry parent name tick

def resolveOrRecorded (cwd : Nat) (path : Bytes) (credentials : Ownership) (make : SearchCall Nat) :
    SearchCall Nat := do
  let found ← Call.attempt (resolveRecorded cwd path true credentials)
  match found with
  | .ok node => return node
  | .error .notFound => make
  | .error failure => quietly (fail failure)

def openRecorded (ownerPid cwd : Nat) (path : Bytes) (flags : OpenFlags) (mode : BitVec 16)
    (owner : Ownership) (tick : Nat) : SearchCall Nat := do
  quietly (failWhen (flags.read = false ∧ flags.write = false) .permissionDenied)
  let node ← resolveOrRecorded cwd path owner
    (if flags.create then createRecorded cwd path owner { kind := .file, mode, owner, tick }
      else quietly (fail .notFound))
  let vfs ← quietly Call.state
  quietly (lift (vfs.requireOpenable node flags owner))
  quietly (change (truncateOnOpen node flags tick))
  onNode cwd path true owner fun node => do
    let vfs ← Call.state
    let index ← lift (vfs.freeOpen ownerPid)
    change fun vfs => vfs.installOpen index ownerPid node flags
    return makeHandle index (nextGeneration (vfs.openFiles index).generation)

/-- Each call with its lookups written down. What follows the last lookup is done quietly. -/
def Request.recorded (cwd : Nat) (path : Bytes) (credentials : Ownership) :
    (request : Request) → SearchCall request.Value
  | .resolve => resolveRecorded cwd path true credentials
  | .resolveNoFollow => resolveRecorded cwd path false credentials
  | .resolveDirectory => onNode cwd path true credentials fun node => do
    let vfs ← Call.state
    failWhen ((vfs.nodes node).kind ≠ .directory) .notDirectory
    lift (vfs.requireAccessNode node credentials { execute := true })
    return node
  | .stat => onNode cwd path true credentials fun node => do
    let vfs ← Call.state
    lift (vfs.statNode node)
  | .ownership => onNode cwd path true credentials fun node => do
    let vfs ← Call.state
    lift (vfs.ownershipNode node)
  | .timestamps => onNode cwd path true credentials fun node => do
    let vfs ← Call.state
    lift (vfs.timestampsNode node)
  | .statFilesystem => onNode cwd path true credentials fun node => do
    let vfs ← Call.state
    let mountId := (vfs.nodes node).mountId
    failWhen (mountId = 0 ∨ mountId - 1 ≥ maximumMounts ∨
      (vfs.mounts (mountId - 1)).used = false) .corruptState
    return vfs.filesystemStats (vfs.mounts (mountId - 1)) mountId
  | .list => onNode cwd path true credentials fun directory => do
    let vfs ← Call.state
    failWhen ((vfs.nodes directory).kind ≠ .directory) .notDirectory
    lift (vfs.requireAccessNode directory credentials { read := true })
    failWhen ((vfs.entriesOf directory).length > maximumDirectoryEntries) .noSpace
    return sortDirectoryRecords ((vfs.entriesOf directory).map vfs.directoryRecord)
  | .readlink outputLength tick => onNode cwd path false credentials fun node => do
    let vfs ← Call.state
    let target ← lift (vfs.symlinkTargetNode node)
    let output := target.take outputLength
    change fun vfs =>
      if output = [] then vfs
      else vfs.modifyNode node fun entry => { entry with accessedTick := tick }
    return output
  | .read offset length => onNode cwd path true credentials fun node => do
    let vfs ← Call.state
    failWhen ((vfs.nodes node).kind = .directory) .isDirectory
    lift (vfs.requireAccessNode node credentials { read := true })
    if (vfs.nodes node).pseudoOperations.isSome then readPseudo node offset length
    else do
      failWhen (offset > (vfs.nodes node).size) .invalidOffset
      readContents node offset (min length ((vfs.nodes node).size - offset))
  | .readOnlyView => onNode cwd path true credentials fun node => do
    let vfs ← Call.state
    lift (vfs.requireAccessNode node credentials { read := true })
    fileViewNode node
  | .executableView => onNode cwd path true credentials fun node => do
    let vfs ← Call.state
    lift (vfs.requireAccessNode node credentials { execute := true })
    fileViewNode node
  | .chmod mode tick => onNode cwd path true credentials fun node => do
    let vfs ← Call.state
    failWhen (credentials.uid ≠ 0 ∧ credentials.uid ≠ (vfs.nodes node).uid) .permissionDenied
    failWhen ((vfs.nodes node).readonly ∨ vfs.mountReadonly (vfs.nodes node).mountId) .readOnly
    failWhen (validStoredMode mode = false) .invalidPath
    change fun vfs => vfs.modifyNode node fun entry =>
      { entry with mode := mode, changedTick := tick }
  | .mkdir mode tick =>
    createRecorded cwd path credentials { kind := .directory, mode, owner := credentials, tick }
  | .create mode tick =>
    createRecorded cwd path credentials { kind := .file, mode, owner := credentials, tick }
  | .symlink target tick => do
    quietly (failWhen (target = []) .invalidPath)
    quietly (lift (validatePathBounds target))
    quietly (lift (validatePathBounds path))
    let (parent, name) ← parentAndNameRecorded cwd path credentials
    quietly do
      let node ← createNode parent name
        { kind := .symlink, mode := 0o777, owner := credentials, tick }
      change fun vfs => vfs.modifyNode node fun entry =>
        { entry with symlinkData := target, size := target.length }
      return node
  | .link newPath tick => linkRecorded cwd path newPath credentials tick
  | .unlink tick => do
    let entry ← entryForPathRecorded cwd path credentials
    quietly do
      let vfs ← Call.state
      let node := (vfs.dentries entry).node
      failWhen ((vfs.nodes node).kind = .directory) .isDirectory
      lift (vfs.requireStickyRemoval (vfs.dentries entry).parent node credentials)
      unlinkEntry entry tick
  | .rmdir tick => do
    let entry ← entryForPathRecorded cwd path credentials
    quietly do
      let vfs ← Call.state
      let node := (vfs.dentries entry).node
      failWhen (node = 0 ∨ (vfs.nodes node).kind ≠ .directory) .notDirectory
      failWhen (vfs.hasChildren node) .directoryNotEmpty
      lift (vfs.requireStickyRemoval (vfs.dentries entry).parent node credentials)
      removeEntry entry tick
  | .rename newPath tick => renameRecorded cwd path newPath credentials tick
  | .openFile ownerPid flags mode tick => openRecorded ownerPid cwd path flags mode credentials tick

/-! ### They are the same calls -/

theorem onNode_erases {Value : Type} (cwd : Nat) (path : Bytes) (followFinal : Bool)
    (credentials : Ownership) (rest : Nat → VfsCall Value) :
    Erases (onNode cwd path followFinal credentials rest)
      (resolveInternalAs cwd path followFinal credentials >>= rest) :=
  erases_bind (resolve_erases _ _ _ _) fun _ => erases_quietly _

theorem create_erases (cwd : Nat) (path : Bytes) (credentials : Ownership) (new : NewNode) :
    Erases (createRecorded cwd path credentials new) (do
        let (parent, name) ← parentAndNameAs cwd path credentials
        createNode parent name new) :=
  erases_bind (parentAndName_erases _ _ _) fun _ => erases_quietly _

theorem link_erases (cwd : Nat) (oldPath newPath : Bytes) (credentials : Ownership) (tick : Nat) :
    Erases (linkRecorded cwd oldPath newPath credentials tick)
      (linkAs cwd oldPath newPath credentials tick) :=
  erases_bind (erases_quietly _) fun _ => erases_bind (erases_quietly _) fun _ =>
    erases_bind (resolve_erases _ _ _ _) fun _ => erases_bind (erases_quietly _) fun _ =>
      erases_bind (erases_quietly _) fun _ => erases_bind (erases_quietly _) fun _ =>
        erases_bind (parentAndName_erases _ _ _) fun _ => erases_quietly _

theorem rename_erases (cwd : Nat) (oldPath newPath : Bytes) (credentials : Ownership) (tick : Nat) :
    Erases (renameRecorded cwd oldPath newPath credentials tick)
      (renameAs cwd oldPath newPath credentials tick) :=
  erases_bind (erases_quietly _) fun _ => erases_bind (erases_quietly _) fun _ =>
    erases_bind (entryForPath_erases _ _ _) fun _ => erases_bind (erases_quietly _) fun _ =>
      erases_bind (erases_quietly _) fun _ =>
        erases_bind (parentAndName_erases _ _ _) fun _ => erases_quietly _

theorem resolveOr_erases (cwd : Nat) (path : Bytes) (credentials : Ownership)
    {makeRecorded : SearchCall Nat} {make : VfsCall Nat} (made : Erases makeRecorded make) :
    Erases (resolveOrRecorded cwd path credentials makeRecorded)
      (resolveOr cwd path credentials make) := by
  refine erases_bind (erases_attempt (resolve_erases _ _ _ _)) fun found => ?_
  match found with
  | .ok node => exact erases_pure node
  | .error failure =>
    cases failure with
    | notFound => exact made
    | _ => exact erases_quietly _

theorem openFile_erases (ownerPid cwd : Nat) (path : Bytes) (flags : OpenFlags) (mode : BitVec 16)
    (owner : Ownership) (tick : Nat) :
    Erases (openRecorded ownerPid cwd path flags mode owner tick)
      (openOwned ownerPid cwd path flags mode owner tick) := by
  have made : Erases (if flags.create then
      createRecorded cwd path owner { kind := .file, mode, owner, tick }
        else quietly (fail .notFound))
      (if flags.create then createOwned cwd path mode owner tick else fail .notFound) :=
    erases_ite (create_erases _ _ _ _) (erases_quietly _)
  exact erases_bind (erases_quietly _) fun _ => erases_bind (resolveOr_erases _ _ _ made) fun _ =>
    erases_bind (erases_quietly _) fun _ => erases_bind (erases_quietly _) fun _ =>
      erases_bind (erases_quietly _) fun _ => onNode_erases _ _ _ _ _

theorem Request.recorded_erases (cwd : Nat) (path : Bytes) (credentials : Ownership)
    (request : Request) :
    Erases (request.recorded cwd path credentials) (request.run cwd path credentials) := by
  cases request with
  | resolve => exact resolve_erases _ _ _ _
  | resolveNoFollow => exact resolve_erases _ _ _ _
  | mkdir mode tick => exact create_erases _ _ _ _
  | create mode tick => exact create_erases _ _ _ _
  | symlink target tick =>
    exact erases_bind (erases_quietly _) fun _ => erases_bind (erases_quietly _) fun _ =>
      erases_bind (erases_quietly _) fun _ =>
        erases_bind (parentAndName_erases _ _ _) fun _ => erases_quietly _
  | link newPath tick => exact link_erases _ _ _ _ _
  | unlink tick => exact erases_bind (entryForPath_erases _ _ _) fun _ => erases_quietly _
  | rmdir tick => exact erases_bind (entryForPath_erases _ _ _) fun _ => erases_quietly _
  | rename newPath tick => exact rename_erases _ _ _ _ _
  | openFile ownerPid flags mode tick => exact openFile_erases _ _ _ _ _ _ _
  | _ => exact onNode_erases _ _ _ _ _

/-! ### Their lookups are permitted -/

section Permitted

variable {credentials : Ownership} (nonroot : credentials.uid ≠ 0)
include nonroot

theorem onNode_records {Value : Type} (cwd : Nat) (path : Bytes) (followFinal : Bool)
    (rest : Nat → VfsCall Value) :
    Keeps (Records (Lookup.Permitted credentials)) (onNode cwd path followFinal credentials rest) :=
  keeps_bind (resolve_records nonroot _ _ _) fun _ => records_quietly _

theorem create_records (cwd : Nat) (path : Bytes) (new : NewNode) :
    Keeps (Records (Lookup.Permitted credentials)) (createRecorded cwd path credentials new) :=
  keeps_bind (parentAndName_records nonroot _ _) fun _ => records_quietly _

theorem link_records (cwd : Nat) (oldPath newPath : Bytes) (tick : Nat) :
    Keeps (Records (Lookup.Permitted credentials))
      (linkRecorded cwd oldPath newPath credentials tick) :=
  keeps_bind (records_quietly _) fun _ => keeps_bind (records_quietly _) fun _ =>
    keeps_bind (resolve_records nonroot _ _ _) fun _ => keeps_bind (records_quietly _) fun _ =>
      keeps_bind (records_quietly _) fun _ => keeps_bind (records_quietly _) fun _ =>
        keeps_bind (parentAndName_records nonroot _ _) fun _ => records_quietly _

theorem rename_records (cwd : Nat) (oldPath newPath : Bytes) (tick : Nat) :
    Keeps (Records (Lookup.Permitted credentials))
      (renameRecorded cwd oldPath newPath credentials tick) :=
  keeps_bind (records_quietly _) fun _ => keeps_bind (records_quietly _) fun _ =>
    keeps_bind (entryForPath_records nonroot _ _) fun _ => keeps_bind (records_quietly _) fun _ =>
      keeps_bind (records_quietly _) fun _ =>
        keeps_bind (parentAndName_records nonroot _ _) fun _ => records_quietly _

theorem openFile_records (ownerPid cwd : Nat) (path : Bytes) (flags : OpenFlags) (mode : BitVec 16)
    (tick : Nat) :
    Keeps (Records (Lookup.Permitted credentials))
      (openRecorded ownerPid cwd path flags mode credentials tick) := by
  refine keeps_bind (records_quietly _) fun _ => keeps_bind
    (keeps_bind (keeps_attempt (resolve_records nonroot _ _ _)) fun found => ?_) fun _ =>
      keeps_bind (records_quietly _) fun _ => keeps_bind (records_quietly _) fun _ =>
        keeps_bind (records_quietly _) fun _ => onNode_records nonroot _ _ _ _
  match found with
  | .ok node => exact keeps_pure node
  | .error failure =>
    cases failure with
    | notFound => exact keeps_ite (create_records nonroot _ _ _) (records_quietly _)
    | _ => exact records_quietly _

theorem Request.recorded_records (cwd : Nat) (path : Bytes) (request : Request) :
    Keeps (Records (Lookup.Permitted credentials)) (request.recorded cwd path credentials) := by
  cases request with
  | resolve => exact resolve_records nonroot _ _ _
  | resolveNoFollow => exact resolve_records nonroot _ _ _
  | mkdir mode tick => exact create_records nonroot _ _ _
  | create mode tick => exact create_records nonroot _ _ _
  | symlink target tick =>
    exact keeps_bind (records_quietly _) fun _ => keeps_bind (records_quietly _) fun _ =>
      keeps_bind (records_quietly _) fun _ =>
        keeps_bind (parentAndName_records nonroot _ _) fun _ => records_quietly _
  | link newPath tick => exact link_records nonroot _ _ _ _
  | unlink tick => exact keeps_bind (entryForPath_records nonroot _ _) fun _ => records_quietly _
  | rmdir tick => exact keeps_bind (entryForPath_records nonroot _ _) fun _ => records_quietly _
  | rename newPath tick => exact rename_records nonroot _ _ _ _
  | openFile ownerPid flags mode tick => exact openFile_records nonroot _ _ _ _ _ _
  | _ => exact onNode_records nonroot _ _ _ _

end Permitted

/-! ### Their names change in writable directories -/

section Names

variable {allowed : Nat → Prop}

theorem resolveInternalAs_names (cwd : Nat) (path : Bytes) (followFinal : Bool)
    (credentials : Ownership) :
    Keeps (NamesChangeIn allowed) (resolveInternalAs cwd path followFinal credentials) :=
  keeps_namesChangeIn_of_sameTables (resolveInternalAs_sameTables _ _ _ _)

variable {credentials : Ownership}

/-- A call that only resolves a path and then leaves the names alone. -/
theorem onNode_names {Value : Type} {followFinal : Bool} {rest : Nat → VfsCall Value}
    (after : ∀ node, Keeps (NamesChangeIn allowed) (rest node)) :
    Keeps (NamesChangeIn allowed) (resolveInternalAs cwd path followFinal credentials >>= rest) :=
  keeps_bind (resolveInternalAs_names _ _ _ _) after

theorem keeps_change_names {step : Vfs → Vfs} (same : ∀ vfs, (step vfs).dentries = vfs.dentries) :
    Keeps (NamesChangeIn allowed) (change step : VfsCall Unit) :=
  keeps_change fun vfs => namesChangeIn_of_eq (same vfs)

/-- Permission to write is not lost by looking things up. -/
theorem keepsFrom_lookup {Found Value : Type} {lookup : VfsCall Found}
    {rest : Found → VfsCall Value} (keeps : Keeps SameTables lookup)
    (after : ∀ found middle, SameTables vfs middle → lookup vfs = (.ok found, middle) →
      KeepsFrom (NamesChangeIn (vfs.Writable credentials)) middle (rest found)) :
    KeepsFrom (NamesChangeIn (vfs.Writable credentials)) vfs (lookup >>= rest) := by
  refine keepsFrom_bind (keeps vfs).namesChangeIn fun found middle outcome => ?_
  have same := keeps vfs
  rw [outcome] at same
  exact after found middle same outcome

variable {credentials : Ownership} (nonroot : credentials.uid ≠ 0) {vfs : Vfs}
include nonroot

/-- A call that finds the parent of a name and then changes names in that parent only. -/
theorem onParent_names {Value : Type} {rest : Nat × Bytes → VfsCall Value}
    (after : ∀ parent name, allowed parent → Keeps (NamesChangeIn allowed) (rest (parent, name)))
    (allows : ∀ directory, vfs.Writable credentials directory → allowed directory) :
    KeepsFrom (NamesChangeIn allowed) vfs (parentAndNameAs cwd path credentials >>= rest) := by
  refine keepsFrom_bind (parentAndNameAs_sameTables _ _ _ vfs).namesChangeIn ?_
  rintro ⟨parent, name⟩ middle outcome
  exact after parent name (allows parent (parentAndNameAs_writable nonroot outcome)) middle

theorem createOwned_names (cwd : Nat) (path : Bytes) (mode : BitVec 16) (tick : Nat)
    (allows : ∀ directory, vfs.Writable credentials directory → allowed directory) :
    KeepsFrom (NamesChangeIn allowed) vfs (createOwned cwd path mode credentials tick) :=
  onParent_names nonroot (fun _ name target => createNode_names name _ target) allows

theorem symlinkOwned_names (cwd : Nat) (target path : Bytes) (tick : Nat) :
    KeepsFrom (NamesChangeIn (vfs.Writable credentials)) vfs
      (symlinkOwned cwd target path credentials tick) := by
  refine keepsFrom_failWhen fun _ => keepsFrom_lift fun _ _ => keepsFrom_lift fun _ _ => ?_
  refine onParent_names nonroot (fun parent name allowed => ?_) fun _ => id
  exact keeps_bind (createNode_names name _ allowed) fun node =>
    keeps_bind (keeps_change_names fun _ => rfl) fun _ => keeps_pure _

theorem linkAs_names (cwd : Nat) (oldPath newPath : Bytes) (tick : Nat) :
    KeepsFrom (NamesChangeIn (vfs.Writable credentials)) vfs
      (linkAs cwd oldPath newPath credentials tick) := by
  refine keepsFrom_lift fun _ _ => keepsFrom_lift fun _ _ => ?_
  refine keepsFrom_lookup (resolveInternalAs_sameTables _ _ _ _) fun node middle same _ => ?_
  refine keepsFrom_state (keepsFrom_failWhen fun _ => keepsFrom_failWhen fun _ => ?_)
  refine onParent_names nonroot (fun parent name target => ?_) fun directory => (same.writable _).mp
  refine keeps_of_keepsFrom fun before => keepsFrom_state (keepsFrom_failWhen fun _ =>
    keepsFrom_failWhen fun _ => ?_)
  refine keepsFrom_bind (findDentry_sameTables parent name before).namesChangeIn fun _ found _ => ?_
  refine keepsFrom_failWhen fun _ => keepsFrom_state (keepsFrom_failWhen fun _ =>
    keepsFrom_lift fun entry free => keepsFrom_change_bind ?_ (keepsFrom_pure _))
  refine namesChangeIn_of_update rfl (fun used => ?_) fun _ => target
  rw [freeDentry_unused free] at used
  cases used

theorem unlinkAs_names (cwd : Nat) (path : Bytes) (tick : Nat) :
    KeepsFrom (NamesChangeIn (vfs.Writable credentials)) vfs (unlinkAs cwd path credentials tick) := by
  refine keepsFrom_lookup (entryForPathAs_sameTables _ _ _) fun entry middle _ outcome => ?_
  refine keepsFrom_state (keepsFrom_failWhen fun _ => keepsFrom_lift fun _ _ => ?_)
  exact unlinkEntry_names tick (entryForPathAs_writable nonroot outcome)

theorem rmdirAs_names (cwd : Nat) (path : Bytes) (tick : Nat) :
    KeepsFrom (NamesChangeIn (vfs.Writable credentials)) vfs (rmdirAs cwd path credentials tick) := by
  refine keepsFrom_lookup (entryForPathAs_sameTables _ _ _) fun entry middle _ outcome => ?_
  refine keepsFrom_state (keepsFrom_failWhen fun _ => keepsFrom_failWhen fun _ =>
    keepsFrom_lift fun _ _ => ?_)
  exact removeEntry_names tick (entryForPathAs_writable nonroot outcome)

theorem renameAs_names (cwd : Nat) (oldPath newPath : Bytes) (tick : Nat) :
    KeepsFrom (NamesChangeIn (vfs.Writable credentials)) vfs
      (renameAs cwd oldPath newPath credentials tick) := by
  refine keepsFrom_lift fun _ _ => keepsFrom_lift fun _ _ => ?_
  refine keepsFrom_lookup (entryForPathAs_sameTables _ _ _) fun sourceEntry found same outcome => ?_
  have source := entryForPathAs_writable nonroot outcome
  refine keepsFrom_state (keepsFrom_failWhen fun _ => ?_)
  refine keepsFrom_bind (parentAndNameAs_sameTables _ _ _ found).namesChangeIn ?_
  rintro ⟨parent, name⟩ reached split
  have target := (same.writable _).mp (parentAndNameAs_writable nonroot split)
  have kept := parentAndNameAs_sameTables cwd newPath credentials found
  rw [split] at kept
  refine keepsFrom_state (keepsFrom_failWhen fun _ => keepsFrom_failWhen fun _ =>
    keepsFrom_failWhen fun _ => ?_)
  refine keepsFrom_bind (findDentry_sameTables parent name reached).namesChangeIn
    fun answer searched lookup => keepsFrom_state ?_
  have unchanged := findDentry_sameTables parent name reached
  rw [lookup] at unchanged
  have held : vfs.Writable credentials (searched.dentries sourceEntry).parent := by
    obtain ⟨_, _, rfl⟩ := unchanged
    obtain ⟨_, _, rfl⟩ := kept
    exact source
  cases answer with
  | none =>
    exact keepsFrom_lift fun _ _ => keepsFrom_change (moveEntry_names name tick (fun _ => held) target)
  | some targetEntry =>
    refine keepsFrom_ite (fun _ => keepsFrom_pure _) fun apart => ?_
    refine keepsFrom_lift fun _ _ => keepsFrom_lift fun _ _ => keepsFrom_change ?_
    have removed : (searched.replaceEntry targetEntry parent tick).dentries =
        update searched.dentries targetEntry
          { generation := (searched.dentries targetEntry).generation } :=
      detachOrReclaimEntry_dentries _ targetEntry
    have named := (findDentry_some lookup).2
    simp only [dentryNamed, Bool.and_eq_true, beq_iff_eq] at named
    have replaced : NamesChangeIn (vfs.Writable credentials) searched
        (searched.replaceEntry targetEntry parent tick) := by
      refine namesChangeIn_of_update removed (fun _ => ?_) fun used => by cases used
      obtain ⟨_, _, rfl⟩ := unchanged
      rwa [named.1.2]
    refine Trans.trans replaced (moveEntry_names name tick (fun _ => ?_) target)
    rwa [removed, update_of_ne (fun same => apart (.inl same.symm))]

/-- An open that creates its file does so in a writable parent, and what it truncates keeps its
name. -/
theorem openOwned_names (ownerPid cwd : Nat) (path : Bytes) (flags : OpenFlags) (mode : BitVec 16)
    (tick : Nat) :
    KeepsFrom (NamesChangeIn (vfs.Writable credentials)) vfs
      (openOwned ownerPid cwd path flags mode credentials tick) := by
  refine keepsFrom_failWhen fun _ => keepsFrom_bind ?_ fun node middle _ => ?_
  · have same := resolveAs_sameTables cwd path credentials vfs
    refine keepsFrom_attempt same.namesChangeIn ?_
    generalize (resolveAs cwd path credentials vfs).1 = found
    match found with
    | .ok node => exact keepsFrom_pure node
    | .error failure =>
      cases failure with
      | notFound =>
        refine keepsFrom_ite (fun _ => ?_) fun _ => keepsFrom_fail _
        exact createOwned_names nonroot cwd path mode tick fun directory => (same.writable _).mp
      | _ => exact keepsFrom_fail _
  · have truncated : Keeps (NamesChangeIn (vfs.Writable credentials))
        (change (truncateOnOpen node flags tick) : VfsCall Unit) := keeps_change fun before => by
      unfold truncateOnOpen
      dsimp only
      split
      · exact (dataOnly_truncateNodeLocked node 0 tick before).namesChangeIn
      · exact refl before
    refine keeps_bind keeps_state (fun _ => keeps_lift_bind fun _ =>
      keeps_bind truncated fun _ => onNode_names fun node => ?_) middle
    refine keeps_state_bind fun _ => keeps_lift_bind fun index =>
      keeps_bind (keeps_change_names ?_) fun _ => keeps_pure _
    exact fun _ => rfl

theorem Request.run_names (cwd : Nat) (path : Bytes) (request : Request) :
    NamesChangeIn (vfs.Writable credentials) vfs (request.run cwd path credentials vfs).2 := by
  cases request with
  | resolve => exact resolveInternalAs_names cwd path true credentials vfs
  | resolveNoFollow => exact resolveInternalAs_names cwd path false credentials vfs
  | resolveDirectory =>
    exact onNode_names (fun node => keeps_state_bind fun _ => keeps_bind (keeps_failWhen _ _)
      fun _ => keeps_lift_bind fun _ => keeps_pure _) vfs
  | stat => exact onNode_names (fun node => keeps_state_bind fun _ => keeps_lift _) vfs
  | ownership => exact onNode_names (fun node => keeps_state_bind fun _ => keeps_lift _) vfs
  | timestamps => exact onNode_names (fun node => keeps_state_bind fun _ => keeps_lift _) vfs
  | statFilesystem =>
    exact onNode_names (fun node => keeps_state_bind fun _ =>
      keeps_failWhen_bind fun _ => keeps_pure _) vfs
  | list =>
    exact onNode_names (fun directory => keeps_state_bind fun _ =>
      keeps_failWhen_bind fun _ => keeps_lift_bind fun _ =>
        keeps_failWhen_bind fun _ => keeps_pure _) vfs
  | readlink outputLength tick =>
    refine onNode_names (fun node => keeps_state_bind fun _ => keeps_bind (keeps_lift _)
      fun target => keeps_bind (keeps_change_names ?_) fun _ => keeps_pure _) vfs
    intro before
    split <;> rfl
  | read offset length =>
    exact onNode_names (fun node => keeps_state_bind fun _ => keeps_bind (keeps_failWhen _ _)
      fun _ => keeps_lift_bind fun _ => keeps_ite (readPseudo_names _ _ _)
        (keeps_failWhen_bind fun _ => readContents_names _ _ _)) vfs
  | readOnlyView | executableView =>
    exact onNode_names (fun node => keeps_state_bind fun _ => keeps_bind (keeps_lift _)
      fun _ => fileViewNode_names node) vfs
  | chmod mode tick =>
    refine onNode_names (fun node => keeps_state_bind fun _ => keeps_bind (keeps_failWhen _ _)
      fun _ => keeps_failWhen_bind fun _ => keeps_bind (keeps_failWhen _ _)
        fun _ => keeps_change_names ?_) vfs
    exact fun _ => rfl
  | mkdir mode tick =>
    exact onParent_names nonroot (fun _ name target => createNode_names name _ target) fun _ => id
  | create mode tick => exact createOwned_names nonroot cwd path mode tick fun _ => id
  | symlink target tick => exact symlinkOwned_names nonroot cwd target path tick
  | link newPath tick => exact linkAs_names nonroot cwd path newPath tick
  | unlink tick => exact unlinkAs_names nonroot cwd path tick
  | rmdir tick => exact rmdirAs_names nonroot cwd path tick
  | rename newPath tick => exact renameAs_names nonroot cwd path newPath tick
  | openFile ownerPid flags mode tick => exact openOwned_names nonroot ownerPid cwd path flags mode tick

end Names

/-! ### Search permission is enforced on every step -/

/-- The recorded call is the call itself. Whatever its outcome, every directory it looked a
component up in grants the execute bit of the one class that applies to the credentials, and every
name it created, removed or moved was and is in a directory that grants the write bit. -/
theorem Request.searches_permitted (vfs : Vfs) (cwd : Nat) (path : Bytes) (credentials : Ownership)
    (nonroot : credentials.uid ≠ 0) (request : Request) :
    (request.recorded cwd path credentials { state := vfs }).1 =
        (request.run cwd path credentials vfs).1 ∧
      (request.recorded cwd path credentials { state := vfs }).2.state =
        (request.run cwd path credentials vfs).2 ∧
      (∀ lookup ∈ (request.recorded cwd path credentials { state := vfs }).2.events,
        lookup.Permitted credentials) ∧
      NamesChangeIn (vfs.Writable credentials) vfs (request.run cwd path credentials vfs).2 := by
  obtain ⟨sameResult, sameState⟩ := request.recorded_erases cwd path credentials { state := vfs }
  refine ⟨sameResult, sameState, ?_, Request.run_names nonroot cwd path request⟩
  exact Request.recorded_records nonroot cwd path request _ fun _ => nofun

/-- A directory `/t` that everyone may write, and one that only its owner may search, `/t/p`. -/
def sharedDirectory : Vfs :=
  (mkdir 0 [slash, 116, slash, 112] 0o700 2 (mkdir 0 [slash, 116] 0o777 1 Vfs.initialized).2).2

/-- Another user makes `/t/f` through the root and the shared directory. -/
theorem sharedDirectory_searched :
    ((Request.create 0o644 3).run 0 [slash, 116, slash, 102] { uid := 7, gid := 7 }
        sharedDirectory).1.isOk = true ∧
      ((Request.create 0o644 3).recorded 0 [slash, 116, slash, 102] { uid := 7, gid := 7 }
        { state := sharedDirectory }).2.events.map Lookup.directory = [1, 0] ∧
      NamesChangeIn (sharedDirectory.Writable { uid := 7, gid := 7 }) sharedDirectory
        ((Request.create 0o644 3).run 0 [slash, 116, slash, 102] { uid := 7, gid := 7 }
          sharedDirectory).2 :=
  ⟨by decide +kernel, by decide +kernel,
    (Request.searches_permitted sharedDirectory 0 [slash, 116, slash, 102] { uid := 7, gid := 7 }
      (by decide) (.create 0o644 3)).2.2.2⟩

/-- Nothing below the private directory is looked up. -/
example : (Request.stat.recorded 0 [slash, 116, slash, 112, slash, 102] { uid := 7, gid := 7 }
    { state := sharedDirectory }).2.events.map Lookup.directory = [1, 0] := by decide +kernel

end Vfs

end ZigOs.RuntimeVfs
