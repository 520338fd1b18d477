/-
This file follows an open handle through the calls that descriptors make. A
handle that resolves keeps resolving, to the same node and generation, until it
is closed: opening takes a free slot and a node that a path names, contents
change in place, and a node is reclaimed only when it has no link and no handle.
-/

import ZigOs.RuntimeVfs.Frame

namespace ZigOs.RuntimeVfs

open Scan Call Function

/-- An open file without its offset. -/
def OpenFile.identity (openFile : OpenFile) : OpenFile := { openFile with offset := 0 }

namespace Vfs

/-! ### The inode behind a handle -/

/-- The node and generation that a handle of this owner resolves to. -/
def inode (vfs : Vfs) (owner handle : Nat) : Option (Nat × Nat) :=
  match vfs.resolveOpen owner handle with
  | .ok index => some ((vfs.openFiles index).node, (vfs.openFiles index).nodeGeneration)
  | .error _ => none

/-- An open file of this owner that holds the given node and generation. -/
structure OpenOn (vfs : Vfs) (owner handle : Nat) (target : Nat × Nat) : Prop where
  bounded : handle % 2 ^ 16 < maximumOpenFiles
  used : (vfs.openFiles (handle % 2 ^ 16)).used = true
  current : (vfs.openFiles (handle % 2 ^ 16)).generation = handle / 2 ^ 16
  owned : (vfs.openFiles (handle % 2 ^ 16)).ownerPid = owner
  node : (vfs.openFiles (handle % 2 ^ 16)).node = target.1
  nodeGeneration : (vfs.openFiles (handle % 2 ^ 16)).nodeGeneration = target.2
  alive : vfs.nodeUsed target.1 = true
  generation : (vfs.nodes target.1).generation = target.2

variable {vfs : Vfs} {owner handle : Nat} {target : Nat × Nat}

theorem OpenOn.resolveOpen (opened : vfs.OpenOn owner handle target) :
    vfs.resolveOpen owner handle = .ok (handle % 2 ^ 16) := by
  unfold Vfs.resolveOpen
  dsimp only
  rw [if_neg (not_le.mpr opened.bounded), if_neg, if_neg]
  · simp only [opened.node, opened.nodeGeneration, opened.alive, opened.generation,
      Bool.true_eq_false, ne_eq, not_true_eq_false, or_self, not_false_eq_true]
  · simp only [opened.used, opened.current, opened.owned, Bool.true_eq_false, ne_eq,
      not_true_eq_false, or_self, not_false_eq_true]

variable {index : Nat}

theorem openOn_of_resolveOpen (resolved : vfs.resolveOpen owner handle = .ok index) :
    vfs.OpenOn owner handle ((vfs.openFiles index).node, (vfs.openFiles index).nodeGeneration) := by
  unfold Vfs.resolveOpen at resolved
  dsimp only at resolved
  split at resolved
  · cases resolved
  · split at resolved
    · cases resolved
    · split at resolved
      · cases resolved
      · rename_i bounded matching alive
        cases resolved
        simp only [not_or, Bool.not_eq_false, ne_eq, not_not, ge_iff_le, not_le] at bounded matching alive
        exact ⟨bounded, matching.1, matching.2.1, matching.2.2, rfl, rfl, alive.1, alive.2⟩

theorem inode_eq_some : vfs.inode owner handle = some target ↔ vfs.OpenOn owner handle target := by
  constructor
  · intro found
    unfold inode at found
    split at found
    · rename_i index resolved
      cases found
      exact openOn_of_resolveOpen resolved
    · cases found
  · intro opened
    simp only [inode, opened.resolveOpen, opened.node, opened.nodeGeneration]

theorem resolveOpen_of_inode (found : vfs.inode owner handle = some target) :
    vfs.resolveOpen owner handle = .ok (handle % 2 ^ 16) := (inode_eq_some.mp found).resolveOpen

theorem inode_of_resolveOpen (resolved : vfs.resolveOpen owner handle = .ok index) :
    vfs.inode owner handle =
      some ((vfs.openFiles index).node, (vfs.openFiles index).nodeGeneration) := by
  simp only [inode, resolved]

/-- Asking for the information of a handle succeeds exactly when it has an inode. -/
theorem openInfo_of_inode (found : vfs.inode owner handle = some target) :
    ∃ info, vfs.openInfo owner handle = .ok info ∧ (info.node, info.nodeGeneration) = target := by
  have resolved := resolveOpen_of_inode found
  have same := inode_of_resolveOpen resolved
  rw [found] at same
  exact ⟨_, by rw [openInfo, resolved], (Option.some.inj same).symm⟩

theorem inode_of_openInfo {info : OpenInfo} (found : vfs.openInfo owner handle = .ok info) :
    vfs.inode owner handle = some (info.node, info.nodeGeneration) := by
  unfold openInfo at found
  split at found
  · cases found
  · rename_i index resolved
    cases found
    exact inode_of_resolveOpen resolved

/-! ### Handles that stay -/

/-- Every handle of the chosen owners that resolved still resolves to the same node. -/
def HandlesKept (chosen : Nat → Prop) (before after : Vfs) : Prop :=
  ∀ owner handle target, chosen owner → before.inode owner handle = some target →
    after.inode owner handle = some target

/-- Named nodes stay linked, and then every handle stays. -/
def Steady (before after : Vfs) : Prop :=
  before.NamesLinked → after.NamesLinked ∧ HandlesKept (fun _ => True) before after

instance : Std.Refl Steady where
  refl _ := fun linked => ⟨linked, fun _ _ _ _ found => found⟩

instance : IsTrans Vfs Steady where
  trans _ _ _ start finish := fun linked => by
    obtain ⟨middle, kept⟩ := start linked
    obtain ⟨final, kept'⟩ := finish middle
    exact ⟨final, fun owner handle target chosen found =>
      kept' owner handle target chosen (kept owner handle target chosen found)⟩

variable {before after : Vfs}

/-- Handles stay when their open files keep their identity and their nodes stay in use. -/
theorem handlesKept_of {chosen : Nat → Prop}
    (stays : ∀ owner handle target, chosen owner → before.OpenOn owner handle target →
      (after.openFiles (handle % 2 ^ 16)).identity = (before.openFiles (handle % 2 ^ 16)).identity ∧
      after.nodeUsed target.1 = true ∧
      (after.nodes target.1).generation = (before.nodes target.1).generation) :
    HandlesKept chosen before after := by
  intro owner handle target isChosen found
  have opened := inode_eq_some.mp found
  obtain ⟨same, alive, generation⟩ := stays owner handle target isChosen opened
  apply inode_eq_some.mpr
  exact {
    bounded := opened.bounded
    used := (congrArg OpenFile.used same).trans opened.used
    current := (congrArg OpenFile.generation same).trans opened.current
    owned := (congrArg OpenFile.ownerPid same).trans opened.owned
    node := (congrArg OpenFile.node same).trans opened.node
    nodeGeneration := (congrArg OpenFile.nodeGeneration same).trans opened.nodeGeneration
    alive := alive
    generation := generation.trans opened.generation }

theorem SameTables.steady (same : SameTables before after) : Steady before after := fun linked =>
  ⟨same.namesLinked linked, handlesKept_of fun _ _ _ _ opened => by
    obtain ⟨cache, clock, rfl⟩ := same
    exact ⟨rfl, opened.alive, rfl⟩⟩

theorem DataOnly.namesLinked (data : DataOnly before after)
    (linked : before.NamesLinked) : after.NamesLinked := by
  constructor
  · rw [data.nodeLinked]
    exact linked.root
  · rw [data.dentries]
    intro index below used
    rw [data.nodeLinked]
    exact linked.node index below used
  · rw [data.dentries]
    intro index below used
    rw [data.nodeLinked]
    exact linked.parent index below used
  · rw [data.mounts]
    intro index below used
    rw [data.nodeLinked]
    exact linked.mount index below used

theorem DataOnly.steady (data : DataOnly before after) : Steady before after := fun linked =>
  ⟨data.namesLinked linked, handlesKept_of fun _ _ target _ opened =>
    ⟨by rw [data.openFiles], by rw [data.nodeUsed]; exact opened.alive, data.generation _⟩⟩

variable (cwd : Nat) (path : Bytes) (credentials : Ownership)

theorem resolveAs_steady : Keeps Steady (resolveAs cwd path credentials) :=
  fun before => (resolveAs_sameTables cwd path credentials before).steady

/-! ### Opening -/

/-- A change of times and events only. -/
theorem steady_touch (vfs : Vfs) (node tick : Nat) : Steady vfs (vfs.touch node tick) :=
  (dataOnly_touch vfs node tick).steady

theorem steady_recordDirectoryChange (vfs : Vfs) (directory node : Nat) (flags : DirectoryEvent)
    (name : Bytes) : Steady vfs (vfs.recordDirectoryChange directory node flags name) :=
  fun linked => ⟨⟨linked.root, linked.node, linked.parent, linked.mount⟩,
    handlesKept_of fun _ _ _ _ opened => ⟨rfl, opened.alive, rfl⟩⟩

variable {node : Nat}

/-- Changing one node keeps what is linked when that node stays or becomes linked. -/
theorem nodeLinked_modifyNode {other : Nat} {step : Node → Node}
    (linked : vfs.nodeLinked other = true)
    (stays : other = node → (step (vfs.nodes node)).used = true ∧ (step (vfs.nodes node)).linkCount ≠ 0) :
    (vfs.modifyNode node step).nodeLinked other = true := by
  simp only [Vfs.nodeLinked, nodeUsed, Bool.and_eq_true, decide_eq_true_eq, bne_iff_ne] at linked ⊢
  obtain rfl | here := eq_or_ne other node
  · simp only [modifyNode, update_self]
    exact ⟨⟨linked.1.1, (stays rfl).1⟩, (stays rfl).2⟩
  · simp only [modifyNode, update_of_ne here]
    exact linked

/-- A new node and its name, in a free node and below a linked directory. -/
theorem steady_installNode {entry parent : Nat} {name : Bytes} {new : NewNode}
    (free : vfs.freeNode = .ok node) (directory : vfs.nodeLinked parent = true) :
    Steady vfs (vfs.installNode node entry parent name new) := by
  unfold freeNode at free
  split at free
  · rename_i first found
    obtain rfl := Except.ok.inj free
    have below := firstIndex_lt found
    have unused := firstIndex_test found
    simp only [Bool.and_eq_true, bne_iff_ne, Bool.not_eq_true'] at unused
    unfold installNode
    refine IsTrans.trans _ _ _ ?_ (IsTrans.trans _ _ _ (steady_touch _ parent new.tick)
      (steady_recordDirectoryChange _ _ _ _ _))
    intro linked
    have stays {other : Nat} (isLinked : vfs.nodeLinked other = true) :
        (vfs.modifyNode first fun old =>
          new.entry (nextGeneration old.generation) (vfs.nodes parent).mountId).nodeLinked other =
            true :=
      nodeLinked_modifyNode isLinked fun _ => ⟨rfl, Nat.one_ne_zero⟩
    have placed : (vfs.modifyNode first fun old =>
        new.entry (nextGeneration old.generation) (vfs.nodes parent).mountId).nodeLinked first =
          true := by
      simp [Vfs.nodeLinked, nodeUsed, modifyNode, NewNode.entry, below]
    refine ⟨⟨stays linked.root, fun index indexBelow => ?_, fun index indexBelow => ?_,
      fun index indexBelow used => stays (linked.mount index indexBelow used)⟩,
      handlesKept_of fun owner handle target _ opened => ⟨rfl, ?_⟩⟩
    · by_cases here : index = entry
      · subst here
        simp only [initializeDentry, modifyDentry, update_self]
        exact fun _ => placed
      · simp only [initializeDentry, modifyDentry, update_of_ne here]
        exact fun used => stays (linked.node index indexBelow used)
    · obtain rfl | here := eq_or_ne index entry
      · simp only [initializeDentry, modifyDentry, update_self]
        exact fun _ => stays directory
      · simp only [initializeDentry, modifyDentry, update_of_ne here]
        exact fun used => stays (linked.parent index indexBelow used)
    · have alive := opened.alive
      have other : target.1 ≠ first := by
        rintro same
        simp [nodeUsed, same, unused.2] at alive
      simpa [initializeDentry, modifyDentry, modifyNode, nodeUsed, other] using alive
  · cases free

theorem createNodeInternal_steady (parent : Nat) (name : Bytes) (new : NewNode)
    (privileged : Bool) : Keeps Steady (createNodeInternal parent name new privileged) := by
  refine keeps_of_keepsFrom fun before => keepsFrom_state ?_
  refine keepsFrom_lift fun _ directory => keepsFrom_failWhen fun _ => ?_
  have searched : KeepsFrom Steady before (findDentry parent name) :=
    (findDentry_sameTables parent name before).steady
  refine keepsFrom_bind searched fun existing found lookup => ?_
  refine keepsFrom_failWhen fun _ => keepsFrom_state (keepsFrom_failWhen fun _ => ?_)
  refine keepsFrom_lift fun _ _ => keepsFrom_failWhen fun _ => ?_
  refine keepsFrom_lift fun node free => keepsFrom_lift fun entry _ => ?_
  refine keepsFrom_change_bind (steady_installNode free ?_) (keepsFrom_pure _)
  have same := findDentry_sameTables parent name before
  rw [lookup] at same
  rw [same.nodeLinked]
  unfold validateDirectory at directory
  split at directory
  · cases directory
  · rename_i linked
    simpa using linked

theorem createOwned_steady (mode : BitVec 16) (owner : Ownership)
    (tick : Nat) : Keeps Steady (createOwned cwd path mode owner tick) :=
  keeps_bind (fun before => (parentAndNameAs_sameTables cwd path owner before).steady)
    fun _ => createNodeInternal_steady _ _ _ _

theorem resolveOr_steady {make : VfsCall Nat}
    (steady : Keeps Steady make) : Keeps Steady (resolveOr cwd path credentials make) := by
  refine keeps_bind (keeps_attempt (resolveAs_steady cwd path credentials)) fun found => ?_
  split
  · exact keeps_pure _
  · exact steady
  · exact keeps_fail _

theorem truncateOnOpen_steady (node : Nat) (flags : OpenFlags) (tick : Nat) (vfs : Vfs) :
    Steady vfs (truncateOnOpen node flags tick vfs) := by
  unfold truncateOnOpen
  dsimp only
  split
  · exact (dataOnly_truncateNodeLocked node 0 tick vfs).steady
  · exact refl vfs

variable {ownerPid : Nat}

theorem freeOpen_ok (free : vfs.freeOpen ownerPid = .ok index) :
    index < maximumOpenFiles ∧ (vfs.openFiles index).used = false := by
  unfold freeOpen at free
  split at free
  · cases free
  · split at free
    · rename_i found
      cases free
      exact ⟨firstIndex_lt found, by simpa using firstIndex_test found⟩
    · cases free

variable {flags : OpenFlags}

theorem steady_installOpen (free : (vfs.openFiles index).used = false) :
    Steady vfs (vfs.installOpen index ownerPid node flags) := by
  refine fun linked => ⟨⟨linked.root, linked.node, linked.parent, linked.mount⟩,
    handlesKept_of fun owner handle target _ opened => ⟨?_, opened.alive, rfl⟩⟩
  have other : handle % 2 ^ 16 ≠ index := by
    intro same
    have used := opened.used
    rw [same, free] at used
    cases used
  simp only [installOpen, modifyOpen, update_of_ne other]

theorem openOwned_steady (ownerPid cwd : Nat) (path : Bytes) (flags : OpenFlags) (mode : BitVec 16)
    (owner : Ownership) (tick : Nat) :
    Keeps Steady (openOwned ownerPid cwd path flags mode owner tick) := by
  refine keeps_failWhen_bind fun _ => keeps_bind
    (resolveOr_steady cwd path owner (keeps_ite (createOwned_steady _ _ _ _ _)
      (keeps_fail _))) fun node => ?_
  refine keeps_state_bind fun vfs => keeps_lift_bind fun _ =>
    keeps_bind (keeps_change (truncateOnOpen_steady node flags tick)) fun _ =>
      keeps_bind (resolveAs_steady cwd path owner) fun node => ?_
  exact keeps_of_keepsFrom fun before => keepsFrom_state (keepsFrom_lift
    fun index free => keepsFrom_change_bind (steady_installOpen (freeOpen_ok free).2)
      (keepsFrom_pure _))

theorem makeHandle_mod (bounded : index < maximumOpenFiles) (generation : Nat) :
    makeHandle index generation % 2 ^ 16 = index := by
  change index < 64 at bounded
  unfold makeHandle
  omega

theorem makeHandle_div (bounded : index < maximumOpenFiles) (generation : Nat) :
    makeHandle index generation / 2 ^ 16 = generation := by
  change index < 64 at bounded
  unfold makeHandle
  omega

/-- A successful open returns a handle that resolves. -/
theorem openOwned_opens {cwd : Nat} {path : Bytes} {mode : BitVec 16} {owner : Ownership}
    {tick : Nat} (linked : before.NamesLinked)
    (outcome : openOwned ownerPid cwd path flags mode owner tick before = (.ok handle, after)) :
    ∃ target, after.inode ownerPid handle = some target := by
  unfold openOwned at outcome
  obtain ⟨_, checked, check, outcome⟩ := bind_ok_cases outcome
  have checkedLinked : checked.NamesLinked := by
    rw [failWhen_apply] at check
    split at check
    · cases check
    · cases check
      exact linked
  obtain ⟨first, resolved, found, outcome⟩ := bind_ok_cases outcome
  have resolvedLinked : resolved.NamesLinked := by
    have made : Keeps Steady (if flags.create then createOwned cwd path mode owner tick
        else fail .notFound) :=
      keeps_ite (createOwned_steady _ _ _ _ _) (keeps_fail _)
    have steady := resolveOr_steady cwd path owner made checked checkedLinked
    rw [found] at steady
    exact steady.1
  rw [bind_state] at outcome
  obtain ⟨_, allowed, check, outcome⟩ := bind_ok_cases outcome
  obtain ⟨-, rfl⟩ := Prod.mk.inj check
  rw [bind_change] at outcome
  obtain ⟨node, reached, lookup, outcome⟩ := bind_ok_cases outcome
  have cutLinked := (truncateOnOpen_steady first flags tick resolved resolvedLinked).1
  have alive := resolveAs_linked cwd path owner _ node reached cutLinked lookup
  have same := resolveAs_sameTables cwd path owner (truncateOnOpen first flags tick resolved)
  rw [lookup] at same
  rw [← same.nodeLinked] at alive
  rw [bind_state] at outcome
  obtain ⟨index, allotted, check, outcome⟩ := bind_ok_cases outcome
  obtain ⟨free, rfl⟩ := Prod.mk.inj check
  rw [bind_change] at outcome
  obtain ⟨handleOf, rfl⟩ := Prod.mk.inj outcome
  cases handleOf
  have bounded := (freeOpen_ok free).1
  simp only [nodeLinked, Bool.and_eq_true] at alive
  refine ⟨(node, (reached.nodes node).generation), inode_eq_some.mpr ?_⟩
  constructor
  all_goals simp only [makeHandle_mod bounded, makeHandle_div bounded, installOpen, modifyOpen,
    update_self]
  · exact bounded
  · exact alive.1

/-! ### Closing -/

theorem namesLinked_modifyOpen {step : OpenFile → OpenFile}
    (linked : vfs.NamesLinked) : (vfs.modifyOpen index step).NamesLinked :=
  ⟨linked.root, linked.node, linked.parent, linked.mount⟩

theorem reclaimNode_steps (vfs : Vfs) (node : Nat) : ∃ middle, DataOnly vfs middle ∧
      vfs.reclaimNode node = middle.modifyNode node fun entry => { generation := entry.generation } :=
  ⟨_, Trans.trans (Trans.trans (dataOnly_invalidateFilePageCacheNode vfs node)
    (dataOnly_discardDirtyFilePagesLocked _ node _)) (dataOnly_releaseAllFileBlocks _ node), rfl⟩

theorem opens_of_openOn
    (opened : vfs.OpenOn owner handle target) : vfs.hasOpenReferences target.1 = true := by
  have holds : vfs.opens (handle % 2 ^ 16) target.1 = true := by
    simp only [opens, opened.used, opened.node, opened.nodeGeneration, opened.generation, beq_self_eq_true,
      Bool.and_self]
  obtain ⟨first, found⟩ : ∃ first, firstIndex maximumOpenFiles
      (fun index => vfs.opens index target.1) = some first :=
    exists_firstIndex opened.bounded holds
  simp only [hasOpenReferences, found, Option.isSome_some, Bool.or_true]

/-- A node without links and open handles can go: no name and no handle refers to it. -/
theorem steady_reclaimNode (unlinked : (vfs.nodes node).linkCount = 0)
    (unopened : vfs.hasOpenReferences node = false) : Steady vfs (vfs.reclaimNode node) := by
  obtain ⟨middle, data, same⟩ := reclaimNode_steps vfs node
  rw [same]
  intro linked
  obtain ⟨middleLinked, kept⟩ := data.steady linked
  have stays {other : Nat} (isLinked : middle.nodeLinked other = true) :
      (middle.modifyNode node fun entry => { generation := entry.generation }).nodeLinked other =
        true := by
    refine nodeLinked_modifyNode isLinked fun here => ?_
    subst here
    rw [data.nodeLinked] at isLinked
    simp [nodeLinked, unlinked] at isLinked
  refine ⟨⟨stays middleLinked.root, fun index below used => stays (middleLinked.node index below used),
    fun index below used => stays (middleLinked.parent index below used),
    fun index below used => stays (middleLinked.mount index below used)⟩, ?_⟩
  refine handlesKept_of fun owner handle target _ opened => ?_
  have other : target.1 ≠ node := by
    intro here
    have held := opens_of_openOn opened
    rw [here, unopened] at held
    cases held
  have unchanged : (middle.modifyNode node fun entry => { generation := entry.generation }).nodes
      target.1 = middle.nodes target.1 := by
    simp only [modifyNode, update_of_ne other]
  refine ⟨congrArg OpenFile.identity (congrFun data.openFiles _), ?_, ?_⟩
  · rw [nodeUsed, unchanged]
    exact (data.nodeUsed target.1).trans opened.alive
  · rw [unchanged, data.generation]

theorem steady_maybeReclaimUnlinked (vfs : Vfs) (node : Nat) :
    Steady vfs (vfs.maybeReclaimUnlinked node) := by
  unfold maybeReclaimUnlinked
  split
  · exact refl vfs
  · rename_i unlinked
    split
    · exact refl vfs
    · rename_i unopened
      simp only [not_or, not_not] at unlinked
      exact steady_reclaimNode unlinked.2 (by simpa using unopened)

theorem close_apply (ownerPid handle : Nat) (before : Vfs) : close ownerPid handle before =
      match before.resolveOpen ownerPid handle with
      | .ok index => (.ok (), before.closeSlot index)
      | .error failure => (.error failure, before) := by
  simp only [close, bind_state]
  cases before.resolveOpen ownerPid handle <;> rfl

/-- Closing a handle keeps every handle of the other owners. -/
theorem close_keeps (ownerPid handle : Nat) (linked : before.NamesLinked) :
    (close ownerPid handle before).2.NamesLinked ∧
      HandlesKept (· ≠ ownerPid) before (close ownerPid handle before).2 := by
  rw [close_apply]
  rcases resolved : before.resolveOpen ownerPid handle with failure | index
  · exact ⟨linked, fun _ _ _ _ found => found⟩
  · have freed : (before.modifyOpen index fun old => { generation := old.generation }).NamesLinked :=
      namesLinked_modifyOpen linked
    obtain ⟨afterLinked, kept⟩ :=
      steady_maybeReclaimUnlinked _ (before.openFiles index).node freed
    refine ⟨afterLinked, fun owner other target isOther found => kept owner other target trivial ?_⟩
    have closed := openOn_of_resolveOpen resolved
    suffices stays : HandlesKept (· ≠ ownerPid) before
        (before.modifyOpen index fun old => { generation := old.generation }) from
      stays owner other target isOther found
    refine handlesKept_of fun owner other target isOther opened => ?_
    have apart : other % 2 ^ 16 ≠ index := by
      intro same
      have slotOf := closed.resolveOpen
      rw [resolved] at slotOf
      rw [Except.ok.inj slotOf] at same
      exact isOther (opened.owned.symm.trans (same ▸ closed.owned))
    refine ⟨?_, opened.alive, rfl⟩
    simp only [modifyOpen, update_of_ne apart]

/-- Closing a handle that resolves succeeds. -/
theorem close_of_inode (found : before.inode ownerPid handle = some target) :
    (close ownerPid handle before).1 = .ok () := by
  rw [close_apply, resolveOpen_of_inode found]

/-! ### Reading and writing -/

theorem steady_advance (vfs : Vfs) (index offset : Nat) : Steady vfs (vfs.advance index offset) := by
  refine fun linked => ⟨namesLinked_modifyOpen linked,
    handlesKept_of fun owner handle target _ opened => ⟨?_, opened.alive, rfl⟩⟩
  by_cases here : handle % 2 ^ 16 = index
  · simp only [advance, modifyOpen, here, update_self, OpenFile.identity]
  · simp only [advance, modifyOpen, update_of_ne here]

theorem steady_finishRead (index count : Nat) (tick : Option Nat) (vfs : Vfs) :
    Steady vfs (finishRead index count tick vfs) := by
  have advanced := steady_advance vfs index ((vfs.openFiles index).offset + count)
  unfold finishRead
  dsimp only
  split
  · split
    · exact advanced
    · refine Trans.trans advanced (DataOnly.steady ?_)
      exact dataOnly_modifyNode _ _ fun _ => rfl
  · exact advanced

theorem countPseudoCall_steady : Keeps Steady countPseudoCall := fun vfs => by
  have data : DataOnly vfs { vfs with pseudoCalls := vfs.pseudoCalls + 1 } :=
    dataOnly_of_nodes rfl rfl rfl rfl rfl rfl rfl rfl
  exact data.steady

theorem readPseudo_steady (node offset length : Nat) :
    Keeps Steady (readPseudo node offset length) := by
  refine keeps_state_bind fun vfs => keeps_bind (keeps_lift _) fun operations => ?_
  split
  · exact keeps_fail _
  · exact keeps_bind countPseudoCall_steady fun _ => keeps_lift _

theorem writePseudo_steady (node offset : Nat) (bytes : Bytes) :
    Keeps Steady (writePseudo node offset bytes) := by
  refine keeps_state_bind fun vfs => keeps_bind (keeps_lift _) fun operations => ?_
  split
  · exact keeps_fail _
  · exact keeps_bind countPseudoCall_steady fun _ => keeps_lift _

theorem readOpenInternal_steady (ownerPid handle length : Nat) (tick : Option Nat) :
    Keeps Steady (readOpenInternal ownerPid handle length tick) := by
  have finished (index : Nat) (bytes : Bytes) : Keeps Steady (do
      change (finishRead index bytes.length tick)
      return bytes : VfsCall Bytes) :=
    keeps_bind (keeps_change (steady_finishRead index bytes.length tick)) fun _ => keeps_pure _
  refine keeps_state_bind fun vfs => keeps_lift_bind fun index =>
    keeps_failWhen_bind fun _ => keeps_bind (keeps_failWhen _ _)
      fun _ => keeps_ite (keeps_bind (readPseudo_steady _ _ _) (finished index)) ?_
  exact keeps_failWhen_bind fun _ => keeps_bind
    (fun before => (readContents_dataOnly _ _ _ before).steady) (finished index)

theorem writeOpen_steady (ownerPid handle : Nat) (bytes : Bytes) (tick : Nat) :
    Keeps Steady (writeOpen ownerPid handle bytes tick) := by
  refine keeps_state_bind fun vfs => keeps_lift_bind fun index =>
    keeps_failWhen_bind fun _ => keeps_ite ?_ ?_
  · refine keeps_bind (writePseudo_steady _ _ _) fun written => keeps_bind
      (keeps_change fun before => steady_advance before _ _) fun _ => keeps_bind
        (keeps_change fun before => ?_) fun _ => keeps_pure _
    split
    · exact refl before
    · exact steady_touch before _ tick
  · exact keeps_lift_bind fun _ => keeps_bind
      (fun before => (writeNodeLocked_dataOnly _ _ _ _ _ before).steady) fun written =>
        keeps_bind (keeps_change fun before => steady_advance before _ _) fun _ => keeps_pure _

end Vfs

end ZigOs.RuntimeVfs
