/-
This file proves when a mount that fails leaves no trace in the name space. Taking
stock of the volume changes nothing but the cache of directory entries. From the
first name on, though, nothing is taken back: a mount that stops later leaves the
names it made, and the nodes behind them refer to the file contexts of a backend that
is not mounted. So a mount leaves no trace when it goes through or stops at its first
change of the name space, and then only.
-/

import ZigOs.RuntimeBootFat.Mount
import ZigOs.RuntimeVfs.Admission

namespace ZigOs.RuntimeBootFat

open Call Function List RuntimeVfs

open RuntimeVfs (Vfs Kind)
open RuntimeVfs.Vfs (SameTables Stays Places Admission SameGenerations)

/-! ### What a volume brings -/

/-- What a volume brings into the name space, by its place in the tables of the backend. -/
inductive Found where
  | directory (index : Nat)
  | file (index : Nat)

/-- The directories in the order they were met, and the files after them. -/
def Backend.found (backend : Backend) : List Found :=
  ((List.range' 1 (maximumDirectories - 1)).filter fun index =>
    (backend.directories index).used).map .directory ++
  ((List.range' 0 maximumFiles).filter fun index => (backend.files index).used).map .file

/-- Where the root of the volume stands; no other directory has a node yet. -/
def nodesBefore (mountpoint : Nat) : Nat → Nat :=
  update (fun _ => invalidNode) rootDirectoryIndex mountpoint

section Publishing

variable (backend : Backend) (backing : Backing) (tick : Nat)

def publishOne (nodes : Nat → Nat) : Found → Call Error Vfs (Nat → Nat)
  | .directory index => do
    let directory := backend.directories index
    failWhen (index ≤ directory.parentIndex ∨
      nodes directory.parentIndex = invalidNode) .corruptFilesystem
    let node ← onVfs (Vfs.mkdir (nodes directory.parentIndex) directory.name 0o555 tick)
    return update nodes index node
  | .file index => do
    let file := backend.files index
    failWhen (maximumDirectories ≤ file.parentDirectory ∨
      nodes file.parentDirectory = invalidNode) .corruptFilesystem
    let _ ← onVfs (Vfs.createBackedFileWithOperations (nodes file.parentDirectory)
      file.name file.size 0o444 tick backing.fileOperations (backing.context index))
    return nodes

def publishAll : List Found → (Nat → Nat) → Call Error Vfs (Nat → Nat)
  | [], nodes => pure nodes
  | item :: rest, nodes => do
    let nodes ← publishOne backend backing tick nodes item
    publishAll rest nodes

end Publishing

/-- The last change of a mount: the mount itself. -/
def finishMount (backend : Backend) (path source : Bytes) : Call Error Vfs Nat := do
  let mountId ← onVfs (Vfs.mount 0 path .bootFat true source)
  setCapacity mountId backend.capacityBlockSize backend.volume.clusterCount backend.freeClusters
  return mountId

theorem bind_assoc {State First Second Third : Type} (first : Call Error State First)
    (second : First → Call Error State Second) (third : Second → Call Error State Third) :
    first >>= second >>= third = first >>= fun value => second value >>= third := by
  have same (before : State) : (first >>= second >>= third) before =
      (first >>= fun value => second value >>= third) before := by
    rw [bind_apply, bind_apply, bind_apply]
    rcases first before with ⟨failure | value, middle⟩
    · rfl
    · rfl
  exact congrArg Call.mk (funext same)

section Publishing

variable {backend : Backend} {backing : Backing} {tick : Nat}

theorem publishAll_append (items others : List Found) (nodes : Nat → Nat) :
    publishAll backend backing tick (items ++ others) nodes =
      publishAll backend backing tick items nodes >>= publishAll backend backing tick others := by
  induction items generalizing nodes with
  | nil => rfl
  | cons item rest hypothesis =>
    show publishOne backend backing tick nodes item >>= _ = _ >>= _ >>= _
    rw [bind_assoc]
    exact congrArg _ (funext fun later => hypothesis later)

theorem publishDirectories_eq (remaining index : Nat) (nodes : Nat → Nat) :
    publishDirectories backend tick remaining index nodes =
      publishAll backend backing tick (((List.range' index remaining).filter fun index =>
        (backend.directories index).used).map .directory) nodes := by
  induction remaining generalizing index nodes with
  | zero => rfl
  | succ remaining hypothesis =>
    rw [List.range'_succ, publishDirectories]
    by_cases used : (backend.directories index).used = false
    · rw [if_pos used, hypothesis, filter_cons_of_neg (by simp [used])]
    · rw [if_neg used, filter_cons_of_pos (by simpa using used), map_cons]
      show _ = (_ >>= _) >>= _
      rw [bind_assoc]
      refine congrArg _ (funext fun _ => ?_)
      rw [bind_assoc]
      exact congrArg _ (funext fun node => hypothesis _ _)

theorem publishFiles_eq (remaining index : Nat) (nodes : Nat → Nat) :
    publishFiles backend backing tick nodes remaining index =
      publishAll backend backing tick (((List.range' index remaining).filter fun index =>
        (backend.files index).used).map .file) nodes >>= fun _ => pure () := by
  induction remaining generalizing index with
  | zero => rfl
  | succ remaining hypothesis =>
    rw [List.range'_succ, publishFiles]
    by_cases used : (backend.files index).used = false
    · rw [if_pos used, hypothesis, filter_cons_of_neg (by simp [used])]
    · rw [if_neg used, filter_cons_of_pos (by simpa using used), map_cons]
      show _ = (_ >>= _) >>= _ >>= _
      rw [bind_assoc, bind_assoc]
      refine congrArg _ (funext fun _ => ?_)
      rw [bind_assoc]
      exact congrArg _ (funext fun node => hypothesis _)

/-- The two loops and the mount after them, as one sequence. -/
theorem publishAndMount_eq (path source : Bytes) (mountpoint : Nat) :
    publishAndMount backend backing path source mountpoint tick =
      publishAll backend backing tick backend.found (nodesBefore mountpoint) >>= fun _ =>
        finishMount backend path source := by
  have published : publishNamespace backend backing mountpoint tick =
      publishAll backend backing tick backend.found (nodesBefore mountpoint) >>= fun _ =>
        pure () := by
    rw [Backend.found, publishAll_append, bind_assoc]
    refine (congrArg (· >>= _) (@publishDirectories_eq backend backing tick _ 1 _)).trans ?_
    exact congrArg _ (funext fun nodes => publishFiles_eq maximumFiles 0 nodes)
  show publishNamespace backend backing mountpoint tick >>= (fun _ =>
    finishMount backend path source) = _
  rw [published, bind_assoc]
  rfl

end Publishing

/-! ### What the filesystem takes -/

/-- The name stands in a directory that was published before it, and the filesystem takes it
there. -/
def Backend.Fits (backend : Backend) (nodes : Nat → Nat) (vfs : Vfs) : Found → Prop
  | .directory index =>
    let directory := backend.directories index
    ¬(index ≤ directory.parentIndex ∨ nodes directory.parentIndex = invalidNode) ∧
      vfs.Takes (nodes directory.parentIndex) directory.name
  | .file index =>
    let file := backend.files index
    ¬(maximumDirectories ≤ file.parentDirectory ∨
      nodes file.parentDirectory = invalidNode) ∧
      vfs.Takes (nodes file.parentDirectory) file.name

/-- The mount point can be mounted over, and the bytes of a cluster fit 16 bits. -/
def Backend.Finishes (backend : Backend) (path source : Bytes) (vfs : Vfs) : Prop :=
  vfs.Mountable 0 path source ∧ backend.capacityBlockSize ≠ 0

/-- The filesystem takes every name, each in the state the names before it led to, and the mount
after them. -/
def Backend.GoesThrough (backend : Backend) (backing : Backing) (path source : Bytes) (tick : Nat) :
    List Found → (Nat → Nat) → Vfs → Prop
  | [], _, vfs => backend.Finishes path source vfs
  | item :: rest, nodes, vfs => backend.Fits nodes vfs item ∧
    ∀ later after, publishOne backend backing tick nodes item vfs = (.ok later, after) →
      backend.GoesThrough backing path source tick rest later after

/-- The filesystem refuses the first name, or the mount when there are no names. -/
def Backend.StopsAtOnce (backend : Backend) (path source : Bytes) (nodes : Nat → Nat) (vfs : Vfs) :
    List Found → Prop
  | [] => ¬vfs.Mountable 0 path source
  | item :: _ => ¬backend.Fits nodes vfs item

/-- How the publication of one name ends. -/
inductive Published (fits : Prop) (vfs : Vfs) : Except Error (Nat → Nat) → Vfs → Prop where
  | refused {failure : Error} {after : Vfs} (denied : ¬fits) (same : SameTables vfs after) :
    Published fits vfs (.error failure) after
  | made {nodes : Nat → Nat} {after : Vfs} (allowed : fits) (places : Places vfs after) :
    Published fits vfs (.ok nodes) after

variable {Value : Type} {vfs after : Vfs}

theorem onVfs_of_ok {call : RuntimeVfs.VfsCall Value} {value : Value}
    (run : call vfs = (.ok value, after)) : onVfs call vfs = (.ok value, after) := by
  simp only [onVfs, run]

variable {failure : ZigOs.Error}

theorem onVfs_of_error {call : RuntimeVfs.VfsCall Value}
    (run : call vfs = (.error failure, after)) :
    onVfs call vfs = (.error (.vfs failure), after) := by
  simp only [onVfs, run]

theorem onVfs_published {linked admitted : Prop} [Decidable linked] {call : RuntimeVfs.VfsCall Nat}
    (notes : Nat → Nat → Nat) (yields : Yields (Admission admitted vfs) vfs call) :
    Yields (Published (¬linked ∧ admitted) vfs) vfs (failWhen linked .corruptFilesystem
      >>= fun _ => onVfs call >>= fun node => pure (notes node)) := by
  refine yields_failWhen (fun unlinked => ?_) fun fits => ?_
  · exact .refused (fun both => both.1 unlinked) (refl vfs)
  · rcases run : call vfs with ⟨failure | node, after⟩
    · rw [Yields, run] at yields
      refine yields_of_error (onVfs_of_error run) ?_
      cases yields with
      | refused denied same => exact .refused (fun both => denied both.2) same
    · rw [Yields, run] at yields
      refine yields_of_ok (onVfs_of_ok run) (yields_pure ?_)
      cases yields with
      | made admits places => exact .made ⟨fits, admits⟩ places

theorem publishOne_published (backend : Backend) (backing : Backing) (tick : Nat)
    (nodes : Nat → Nat) (item : Found) (vfs : Vfs) :
    Yields (Published (backend.Fits nodes vfs item) vfs) vfs
      (publishOne backend backing tick nodes item) := by
  cases item with
  | directory index =>
    exact onVfs_published (fun node => update nodes index node)
      (RuntimeVfs.Vfs.mkdir_admission (by decide))
  | file index =>
    exact onVfs_published (fun _ => nodes)
      (RuntimeVfs.Vfs.createBackedFile_admission (by decide) rfl rfl rfl)

/-! ### How a publication ends -/

/-- The nodes in use keep the generations of their slots. -/
def Anchored (before after : Vfs) : Prop :=
  ∀ node, (before.nodes node).used = true →
    (after.nodes node).generation = (before.nodes node).generation

variable {before middle : Vfs}

theorem Anchored.earlier (stays : Stays before middle)
    (anchored : Anchored middle after) : Anchored before after := fun node used =>
  (anchored node (stays node used).1).trans (stays node used).2

/-- A slot of the node table shows that something was published. -/
structure Stranded (before after : Vfs) : Prop where
  anchored : Anchored before after
  moved : ∃ node, (after.nodes node).generation ≠ (before.nodes node).generation

theorem Stranded.of_places (places : Places before middle)
    (anchored : Anchored middle after) : Stranded before after := by
  obtain ⟨node, used, moved⟩ := places.placed
  refine ⟨anchored.earlier places.stays, node, ?_⟩
  rwa [anchored node used]

theorem Stranded.nodes_ne (stranded : Stranded before after) : after.nodes ≠ before.nodes := by
  intro same
  obtain ⟨node, moved⟩ := stranded.moved
  exact moved (by rw [same])

/-- How a sequence of publications and the mount after it end. -/
inductive Ending (through atOnce : Prop) (vfs : Vfs) : Except Error Nat → Vfs → Prop where
  | refused {failure : Error} {after : Vfs} (early : atOnce) (short : ¬through)
      (same : SameTables vfs after) : Ending through atOnce vfs (.error failure) after
  | stranded {failure : Error} {after : Vfs} (late : ¬atOnce) (short : ¬through)
      (left : Stranded vfs after) : Ending through atOnce vfs (.error failure) after
  | done {mountId : Nat} {after : Vfs} (all : through) :
    Ending through atOnce vfs (.ok mountId) after

/-- A failure leaves the slots in use anchored wherever it comes. -/
theorem Ending.anchored {through atOnce : Prop} {failure : Error}
    (ending : Ending through atOnce vfs (.error failure) after) : Anchored vfs after := by
  cases ending with
  | refused early short same => exact fun node used => (same.stays node used).2
  | stranded late short left => exact left.anchored

variable {mountId blockSize totalBlocks freeBlocks : Nat}

theorem setCapacity_of_ok
    (run : Vfs.setMountBlockCapacity mountId blockSize totalBlocks freeBlocks vfs =
      (.ok (), after)) :
    setCapacity mountId blockSize totalBlocks freeBlocks vfs = (.ok (), after) := by
  unfold setCapacity
  rw [bind_attempt, onVfs_of_ok run]
  rfl

theorem setCapacity_of_error
    (run : Vfs.setMountBlockCapacity mountId blockSize totalBlocks freeBlocks vfs =
      (.error failure, after)) : ∃ last, setCapacity mountId blockSize totalBlocks freeBlocks vfs =
      (.error (.vfs failure), last) ∧ SameGenerations after last := by
  refine ⟨(Vfs.unmount mountId after).2, ?_, RuntimeVfs.Vfs.unmount_sameGenerations mountId after⟩
  unfold setCapacity
  rw [bind_attempt, onVfs_of_error run]
  rcases down : Vfs.unmount mountId after with ⟨refusal | _, last⟩
  · show (Call.attempt (onVfs (Vfs.unmount mountId)) >>= _) after = _
    rw [bind_attempt, onVfs_of_error down]
    rfl
  · show (Call.attempt (onVfs (Vfs.unmount mountId)) >>= _) after = _
    rw [bind_attempt, onVfs_of_ok down]
    rfl

variable {backend : Backend}

theorem finishMount_ending (counted :
    backend.freeClusters ≤ backend.volume.clusterCount) (path source : Bytes) (vfs : Vfs) :
    Yields (Ending (backend.Finishes path source vfs) (¬vfs.Mountable 0 path source) vfs) vfs
      (finishMount backend path source) := by
  have mounted : Yields (Admission (vfs.Mountable 0 path source) vfs) vfs
    (Vfs.mount 0 path .bootFat true source) := RuntimeVfs.Vfs.mount_admission
  rcases run : Vfs.mount 0 path .bootFat true source vfs with ⟨failure | mountId, after⟩
  · rw [Yields, run] at mounted
    refine yields_of_error (onVfs_of_error run) ?_
    cases mounted with
    | refused denied same => exact .refused denied (fun finishes => denied finishes.1) same
  · rw [Yields, run] at mounted
    refine yields_of_ok (onVfs_of_ok run) ?_
    cases mounted with
    | made mountable places =>
      obtain ⟨index, real, slot, kind⟩ := RuntimeVfs.Vfs.mount_slot mountId after run
      by_cases size : backend.capacityBlockSize = 0
      · have refused : Vfs.setMountBlockCapacity mountId backend.capacityBlockSize
            backend.volume.clusterCount backend.freeClusters after = (.error .invalidPath, after) := by
          unfold RuntimeVfs.Vfs.setMountBlockCapacity
          rw [bind_failWhen, if_pos (.inr (.inl size))]
        obtain ⟨last, failed, kept⟩ := setCapacity_of_error refused
        refine yields_of_error failed (.stranded (fun denied => denied mountable)
          (fun finishes => finishes.2 size) (.of_places places fun node _ => kept node))
      · obtain ⟨last, set⟩ := RuntimeVfs.Vfs.setMountBlockCapacity_ok real slot kind size counted
        exact yields_of_ok (setCapacity_of_ok set) (yields_pure (.done ⟨mountable, size⟩))

/-- The run: each name that is taken strands the mount unless everything after it is taken too. -/
theorem publishAll_ending (counted :
    backend.freeClusters ≤ backend.volume.clusterCount) (backing : Backing) (path source : Bytes)
    (tick : Nat) (items : List Found) (nodes : Nat → Nat) (vfs : Vfs) :
    Yields (Ending (backend.GoesThrough backing path source tick items nodes vfs)
        (backend.StopsAtOnce path source nodes vfs items) vfs) vfs
      (publishAll backend backing tick items nodes >>= fun _ => finishMount backend path source) := by
  induction items generalizing nodes vfs with
  | nil => exact finishMount_ending counted path source vfs
  | cons item rest hypothesis =>
    have published := publishOne_published backend backing tick nodes item vfs
    show Yields _ vfs ((publishOne backend backing tick nodes item >>= _) >>= _)
    rw [bind_assoc]
    rcases run : publishOne backend backing tick nodes item vfs with ⟨failure | later, after⟩
    · rw [Yields, run] at published
      refine yields_of_error run ?_
      cases published with
      | refused denied same => exact .refused denied (fun through => denied through.1) same
    · rw [Yields, run] at published
      refine yields_of_ok run ((hypothesis later after).imp fun result last ended => ?_)
      cases published with
      | made fits places =>
        have short (unfinished : ¬backend.GoesThrough backing path source tick rest later after) :
            ¬backend.GoesThrough backing path source tick (item :: rest) nodes vfs :=
          fun through => unfinished (through.2 later after run)
        have left (failure : Error) (failed : result = .error failure) : Stranded vfs last := by
          subst failed
          exact .of_places places ended.anchored
        cases ended with
        | refused early unfinished same =>
          exact .stranded (fun denied => denied fits) (short unfinished) (left _ rfl)
        | stranded late unfinished _ =>
          exact .stranded (fun denied => denied fits) (short unfinished) (left _ rfl)
        | done all =>
          refine .done ⟨fits, fun other reached again => ?_⟩
          rw [run] at again
          obtain ⟨same, rfl⟩ := Prod.mk.inj again
          rwa [← Except.ok.inj same]

/-! ### Taking stock -/

/-- The geometry of the volume stays as it was read. -/
def SameVolume (before after : Backend) : Prop := after.volume = before.volume

instance : Std.Refl SameVolume where
  refl _ := rfl

instance : IsTrans Backend SameVolume where
  trans _ _ _ start finish := Eq.trans finish start

theorem readDeviceBlockLocked_sameVolume (lba : Nat) :
    Keeps SameVolume (readDeviceBlockLocked lba) :=
  keeps_state_bind fun _ => keeps_failWhen_bind fun _ =>
    keeps_bind (keeps_change fun _ => rfl) fun _ =>
      keeps_failWhen_bind fun _ => keeps_pure _

theorem orOutOfRange_sameVolume (found : Option Value) : Keeps SameVolume (orOutOfRange found) := by
  cases found with
  | none => exact keeps_bind (keeps_change fun _ => rfl) fun _ => keeps_fail _
  | some value => exact keeps_pure value

theorem readClusterLinkLocked_sameVolume (cluster : Nat) :
    Keeps SameVolume (readClusterLinkLocked cluster) := by
  refine keeps_state_bind fun backend =>
    keeps_bind (orOutOfRange_sameVolume _) fun location => keeps_bind ?_ fun _ =>
      keeps_state_bind fun _ => orOutOfRange_sameVolume _
  refine keeps_state_bind fun _ => keeps_ite ?_ (keeps_pure _)
  refine keeps_bind ?_ fun _ => keeps_change fun _ => rfl
  exact keeps_bind (readDeviceBlockLocked_sameVolume _) fun _ =>
    keeps_change fun _ => rfl

/-- Of the clusters that are looked at each is counted once at most. -/
theorem countFreeLoop_le (remaining cluster freeClusters : Nat) (backend : Backend) :
    Gives (fun counted after => counted ≤ freeClusters + remaining ∧ SameVolume backend after)
      backend (countFreeLoop remaining cluster freeClusters) := by
  induction remaining generalizing cluster freeClusters backend with
  | zero => exact gives_pure ⟨Nat.le_refl _, rfl⟩
  | succ remaining hypothesis =>
    have read : Gives (fun _ after => SameVolume backend after) backend
        (readClusterLinkLocked cluster) := by
      intro link after run
      have kept := readClusterLinkLocked_sameVolume cluster backend
      rwa [run] at kept
    refine gives_bind read fun link after same =>
      (hypothesis _ _ after).imp fun counted last holds => ?_
    refine ⟨Nat.le_trans holds.1 ?_, Trans.trans same holds.2⟩
    split
    · exact Nat.le_of_eq (by ring)
    · exact Nat.add_le_add_left (Nat.le_succ remaining) _

theorem importVolume_counted (backend : Backend) :
    Gives (fun _ after => after.freeClusters ≤ after.volume.clusterCount) backend
      importVolume := by
  have scanned : Gives (fun _ _ => True) backend.stageRoot
      (scanQueue maximumDirectories 0 [rootDirectoryIndex]) := fun _ _ _ => trivial
  refine gives_change (gives_bind scanned fun _ after _ => ?_)
  have counted := countFreeLoop_le after.volume.clusterCount 2 0 after
  refine gives_bind (show Gives _ after countFreeClustersLocked from counted)
    fun freeClusters last holds => ?_
  intro _ final run
  obtain rfl : { last with freeClusters } = final := congrArg Prod.snd run
  show freeClusters ≤ last.volume.clusterCount
  rw [show last.volume = after.volume from holds.2]
  exact Nat.zero_add after.volume.clusterCount ▸ holds.1

/-- The filesystem is the same but for its cache of directory entries. -/
def SameNames (before after : Mounting) : Prop := SameTables before.vfs after.vfs

instance : Std.Refl SameNames where
  refl mounting := refl mounting.vfs

instance : IsTrans Mounting SameNames where
  trans first middle last start finish :=
    show SameTables first.vfs last.vfs from IsTrans.trans first.vfs middle.vfs last.vfs start finish

theorem onBackend_sameNames (call : BackendCall Value) :
    Keeps SameNames (onBackend call) := fun mounting => refl mounting.vfs

theorem onVfs_keeps {relation : Vfs → Vfs → Prop} {call : RuntimeVfs.VfsCall Value}
    (keeps : Keeps relation call) : Keeps relation (onVfs call) := by
  intro vfs
  have kept := keeps vfs
  rcases run : call vfs with ⟨failure | value, after⟩
  · rw [run] at kept
    rwa [onVfs_of_error run]
  · rw [run] at kept
    rwa [onVfs_of_ok run]

theorem resolveMountpoint_sameTables (path : Bytes) : Keeps SameTables (resolveMountpoint path) :=
  keeps_bind (onVfs_keeps (RuntimeVfs.Vfs.resolveAs_sameTables 0 path {})) fun _ =>
    keeps_state_bind fun _ => keeps_bind (onVfs_keeps (keeps_lift _))
      fun _ => keeps_failWhen_bind fun _ => keeps_pure _

theorem stageVolume_sameNames (path : Bytes) (device : BlockDevice) :
    Keeps SameNames (stageVolume path device) := by
  refine keeps_bind (onBackend_sameNames _) fun _ =>
    keeps_bind (onBackend_sameNames _) fun _ => keeps_bind ?_ fun mountpoint =>
      keeps_bind (onBackend_sameNames _) fun _ => keeps_pure mountpoint
  exact fun mounting => resolveMountpoint_sameTables path mounting.vfs

theorem stageVolume_counted (path : Bytes) (device : BlockDevice) (mounting : Mounting) :
    Gives (fun _ staged => staged.backend.freeClusters ≤ staged.backend.volume.clusterCount)
      mounting (stageVolume path device) := by
  have any {Value : Type} (call : Call Error Mounting Value) (start : Mounting) :
      Gives (fun _ _ => True) start call := fun _ _ _ => trivial
  refine gives_bind (any _ _) fun _ _ _ => gives_bind (any _ _) fun _ _ _ =>
    gives_bind (any _ _) fun mountpoint found _ => ?_
  have counted : Gives (fun _ staged =>
      staged.backend.freeClusters ≤ staged.backend.volume.clusterCount) found
      (onBackend importVolume) := by
    intro value staged run
    obtain ⟨imported, rfl⟩ := Prod.mk.inj run
    exact importVolume_counted found.backend value _ (Prod.ext imported rfl)
  exact gives_bind counted fun _ staged holds => gives_pure holds

/-! ### A mount that fails -/

/-- The node leads to a file context of the backend. -/
def Backing.Refers (backing : Backing) (node : RuntimeVfs.Node) : Prop :=
  node.pseudoOperations = some backing.fileOperations ∧
    ∃ index < maximumFiles, node.pseudoContext = backing.context index

/-- No node in use leads to a file context of the backend. -/
def Backing.Unreferred (backing : Backing) (vfs : Vfs) : Prop :=
  ∀ node, vfs.nodeUsed node = true → ¬backing.Refers (vfs.nodes node)

/-- The name space is as it was, and no node leads to a file context of the backend. -/
structure Traceless (backing : Backing) (before after : Vfs) : Prop where
  nodes : after.nodes = before.nodes
  dentries : after.dentries = before.dentries
  mounts : after.mounts = before.mounts
  unreferred : backing.Unreferred after

theorem traceless_iff {backing : Backing} (same : SameTables before after) :
    Traceless backing before after ↔ backing.Unreferred before := by
  obtain ⟨cache, clock, rfl⟩ := same
  exact ⟨fun traceless => traceless.unreferred, fun unreferred => ⟨rfl, rfl, rfl, unreferred⟩⟩

/-- If this mount fails, it leaves no trace. -/
def FailsWithoutTrace (backing : Backing) (path source : Bytes) (device : BlockDevice) (tick : Nat)
    (mounting : Mounting) : Prop :=
  ∀ failure after, mount backing path source device tick mounting = (.error failure, after) →
    Traceless backing mounting.vfs after.vfs

def Mounting.prepared (mounting : Mounting) (device : BlockDevice) : Mounting :=
  { mounting with backend := (mounting.backend.reset device).acquireLock }

/-- The backend is free, the device is one it accepts, and it took stock of the whole volume and
found the mount point. -/
structure Stages (mounting : Mounting) (path : Bytes) (device : BlockDevice) (staged : Mounting)
    (mountpoint : Nat) : Prop where
  free : ¬mounting.backend.mounted = true
  geometry : ¬(device.blockSize < 512 ∨ maximumSectorBytes < device.blockSize ∨
    Fat.isPowerOfTwo device.blockSize = false ∨ device.sectorCount = 0)
  bounded : ¬2 ^ 64 ≤ device.firstLba + device.sectorCount
  stock : stageVolume path device (mounting.prepared device) = (.ok mountpoint, staged)

/-- How a mount ends: before it has published anything, or as its publication does. -/
inductive Attempt (backing : Backing) (path source : Bytes) (device : BlockDevice) (tick : Nat)
    (mounting : Mounting) : Except Error Nat → Mounting → Prop where
  | early {failure : Error} {after : Mounting}
      (unstaged : ∀ staged mountpoint, ¬Stages mounting path device staged mountpoint)
      (same : SameTables mounting.vfs after.vfs) :
    Attempt backing path source device tick mounting (.error failure) after
  | published {staged after : Mounting} {mountpoint : Nat} {result : Except Error Nat}
      (stages : Stages mounting path device staged mountpoint)
      (same : SameTables mounting.vfs staged.vfs)
      (ending : Ending (staged.backend.GoesThrough backing path source tick staged.backend.found
          (nodesBefore mountpoint) staged.vfs)
        (staged.backend.StopsAtOnce path source (nodesBefore mountpoint) staged.vfs
          staged.backend.found) staged.vfs result after.vfs) :
    Attempt backing path source device tick mounting result after

theorem mount_attempt (backing : Backing) (path source : Bytes) (device : BlockDevice) (tick : Nat)
    (mounting : Mounting) :
    Yields (Attempt backing path source device tick mounting) mounting
      (mount backing path source device tick) := by
  have refl : SameTables mounting.vfs mounting.vfs := refl mounting.vfs
  refine yields_state (yields_failWhen (fun mounted => ?_) fun free =>
    yields_failWhen (fun refused => ?_) fun geometry =>
      yields_failWhen (fun overflows => ?_) fun bounded => ?_)
  · exact .early (fun _ _ stages => stages.free mounted) refl
  · exact .early (fun _ _ stages => stages.geometry refused) refl
  · exact .early (fun _ _ stages => stages.bounded overflows) refl
  have same := stageVolume_sameNames path device (mounting.prepared device)
  have counted := stageVolume_counted path device (mounting.prepared device)
  have prepares : onBackend (change fun backend => (backend.reset device).acquireLock) mounting =
      (.ok (), mounting.prepared device) := rfl
  refine yields_of_ok prepares ?_
  show Attempt backing path source device tick mounting
    (mountLocked backing path source device tick (mounting.prepared device)).1 _
  rcases stock : stageVolume path device (mounting.prepared device) with ⟨failure | mountpoint, staged⟩
  · rw [stock] at same
    rw [closing_apply, mountLocked, bind_of_error stock]
    refine .early (fun other place stages => ?_) same
    have impossible := stages.stock
    rw [stock] at impossible
    cases congrArg Prod.fst impossible
  · rw [stock] at same
    have stages : Stages mounting path device staged mountpoint := ⟨free, geometry, bounded, stock⟩
    have ended := publishAll_ending (counted mountpoint staged stock) backing path source tick
      staged.backend.found (nodesBefore mountpoint) staged.vfs
    rw [← publishAndMount_eq] at ended
    rw [closing_apply, mountLocked, bind_of_ok stock, bind_state]
    rcases run : publishAndMount staged.backend backing path source mountpoint tick staged.vfs with
      ⟨failure | mountId, after⟩
    · rw [Yields, run] at ended
      have failed : onFilesystem (publishAndMount staged.backend backing path source mountpoint tick)
          staged = (.error failure, { staged with vfs := after }) := by
        rw [onFilesystem, within_apply, run]
      rw [bind_of_error failed]
      exact .published stages same ended
    · rw [Yields, run] at ended
      have published : onFilesystem (publishAndMount staged.backend backing path source mountpoint
          tick) staged = (.ok mountId, { staged with vfs := after }) := by
        rw [onFilesystem, within_apply, run]
      rw [bind_of_ok published]
      exact .published stages same ended

/-- A mount leaves no trace when it fails exactly if it goes through, or if nothing led to the
backend before and it stops at its first change of the name space at the latest. -/
theorem mount_failsWithoutTrace_iff (backing : Backing) (path source : Bytes) (device : BlockDevice)
    (tick : Nat) (mounting : Mounting) :
    FailsWithoutTrace backing path source device tick mounting ↔
      (∃ staged mountpoint, Stages mounting path device staged mountpoint ∧
        staged.backend.GoesThrough backing path source tick staged.backend.found
          (nodesBefore mountpoint) staged.vfs) ∨
      backing.Unreferred mounting.vfs ∧ ∀ staged mountpoint,
        Stages mounting path device staged mountpoint →
          staged.backend.StopsAtOnce path source (nodesBefore mountpoint) staged.vfs
            staged.backend.found := by
  have attempt := mount_attempt backing path source device tick mounting
  have single {staged other : Mounting} {mountpoint place : Nat}
      (stages : Stages mounting path device staged mountpoint)
      (again : Stages mounting path device other place) : staged = other ∧ mountpoint = place := by
    have both := stages.stock.symm.trans again.stock
    exact ⟨congrArg Prod.snd both, Except.ok.inj (congrArg Prod.fst both)⟩
  unfold FailsWithoutTrace
  rcases run : mount backing path source device tick mounting with ⟨result, after⟩
  rw [Yields, run] at attempt
  have only {failure : Error} (failed : result = .error failure) :
      (∀ other last, (result, after) = (Except.error other, last) →
        Traceless backing mounting.vfs last.vfs) ↔ Traceless backing mounting.vfs after.vfs := by
    subst failed
    refine ⟨fun every => every _ _ rfl, fun traceless other last same => ?_⟩
    obtain rfl : after = last := congrArg Prod.snd same
    exact traceless
  cases attempt with
  | early unstaged same =>
    rw [only rfl, traceless_iff same]
    refine ⟨fun unreferred => .inr ⟨unreferred, fun staged place stages =>
      absurd stages (unstaged staged place)⟩, ?_⟩
    rintro (⟨staged, place, stages, -⟩ | ⟨unreferred, -⟩)
    · exact absurd stages (unstaged staged place)
    · exact unreferred
  | @published staged _ mountpoint _ stages same ending =>
    cases ending with
    | refused early short unchanged =>
      rw [only rfl, traceless_iff (Trans.trans same unchanged)]
      refine ⟨fun unreferred => .inr ⟨unreferred, fun other place again => ?_⟩, ?_⟩
      · obtain ⟨rfl, rfl⟩ := single stages again
        exact early
      · rintro (⟨other, place, again, through⟩ | ⟨unreferred, -⟩)
        · obtain ⟨rfl, rfl⟩ := single stages again
          exact absurd through short
        · exact unreferred
    | stranded late short left =>
      rw [only rfl]
      obtain ⟨cache, clock, same⟩ := same
      have nodes : staged.vfs.nodes = mounting.vfs.nodes := by rw [same]
      refine ⟨fun traceless => absurd (traceless.nodes.trans nodes.symm) left.nodes_ne, ?_⟩
      rintro (⟨other, place, again, through⟩ | ⟨-, stops⟩)
      · obtain ⟨rfl, rfl⟩ := single stages again
        exact absurd through short
      · exact absurd (stops staged mountpoint stages) late
    | done all =>
      refine ⟨fun _ => .inl ⟨staged, mountpoint, stages, all⟩, fun _ failure last failed => ?_⟩
      cases congrArg Prod.fst failed

/-- The boot sector of a FAT16 volume whose root directory takes one sector of 4096 bytes. -/
def smallBootSector : Fat.Sector
  | 12 => 0x10
  | 13 => 1
  | 14 => 1
  | 16 => 1
  | 17 => 0x80
  | 19 => 0xF9
  | 20 => 0x0F
  | 22 => 2
  | 510 => 0x55
  | 511 => 0xAA
  | _ => 0

/-- A root directory with two empty files of the name `A`. -/
def twinFiles : Fat.Sector := fun offset =>
  if 64 ≤ offset then 0
  else if offset % 32 = 0 then 65
  else if offset % 32 ≤ 11 then 0x20
  else 0

def twinVolume : BlockDevice where
  context :=
    { blocks := fun lba =>
        if lba = 0 then smallBootSector else if lba = 3 then twinFiles else fun _ => 0
      answers := fun _ => true }
  blockSize := 4096
  firstLba := 0
  sectorCount := 5000

/-- `/boot` -/
def bootPath : Bytes := [0x2F, 0x62, 0x6F, 0x6F, 0x74]

/-- A fresh backend beside a filesystem that holds `/boot` only. -/
def freshMounting : Mounting where
  backend := { device := twinVolume, volume := Fat.decodeVolume (fun _ => 0) 0 }
  vfs := (Vfs.mkdir 0 bootPath 0o755 0 Vfs.initialized).2

def plainBacking : Backing where
  address := 1
  read := fun _ _ _ _ _ => .ok []
  context := id

/-- The first of the two files stays in the name space after the second one was refused. -/
theorem mount_leavesTwin : plainBacking.Unreferred freshMounting.vfs ∧
    ¬FailsWithoutTrace plainBacking bootPath bootPath twinVolume 1 freshMounting := by
  refine ⟨fun node used refers => ?_, fun traceless => ?_⟩
  · have plain : ∀ node < maximumNodes,
        (freshMounting.vfs.nodes node).pseudoOperations.isNone = true := by decide +kernel
    have below : node < maximumNodes := by
      simp only [RuntimeVfs.Vfs.nodeUsed, Bool.and_eq_true, decide_eq_true_eq] at used
      exact used.1
    have missing := plain node below
    rw [refers.1] at missing
    cases missing
  · have left : (mount plainBacking bootPath bootPath twinVolume 1 freshMounting).1.isOk = false ∧
        ((mount plainBacking bootPath bootPath twinVolume 1 freshMounting).2.vfs.nodes 2).used = true ∧
        (freshMounting.vfs.nodes 2).used = false := by decide +kernel
    rcases run : mount plainBacking bootPath bootPath twinVolume 1 freshMounting with
      ⟨failure | mountId, after⟩
    · rw [run] at left
      have same := (traceless failure after run).nodes
      exact Bool.false_ne_true (left.2.2.symm.trans ((congrArg (fun nodes =>
        (nodes 2).used) same).symm.trans left.2.1))
    · rw [run] at left
      cases left.1

end ZigOs.RuntimeBootFat
