/-
This file says what the calls of the filesystem leave alone. A lookup changes
the cache of directory entries only, and what it finds is a node with a name. A
call on the contents of a file changes blocks, pages and dirty marks, and of a
node nothing that decides where it stands in the name space.
-/

import ZigOs.RuntimeVfs.Open

namespace ZigOs.RuntimeVfs

open Scan Call Except

/-- A node without its contents and its times. -/
def Node.place (node : Node) : Node :=
  { node with
    size := 0
    fileBlocks := fun _ => invalidDataBlock
    modifiedTick := 0
    changedTick := 0
    accessedTick := 0 }

namespace Vfs

/-! ### Lookups change the cache only -/

/-- The two states differ at most in the cache of directory entries. -/
def SameTables (before after : Vfs) : Prop :=
  ∃ cache clock, after = { before with dentryCache := cache, dentryCacheClock := clock }

instance : Std.Refl SameTables where
  refl vfs := ⟨vfs.dentryCache, vfs.dentryCacheClock, rfl⟩

instance : IsTrans Vfs SameTables where
  trans := by
    rintro first second third ⟨cache, clock, rfl⟩ ⟨cache', clock', rfl⟩
    exact ⟨cache', clock', rfl⟩

theorem sameTables_modifyCacheSlot (vfs : Vfs) (index : Nat)
    (step : DentryCacheEntry → DentryCacheEntry) : SameTables vfs (vfs.modifyCacheSlot index step) :=
  ⟨_, vfs.dentryCacheClock, rfl⟩

variable (parent : Nat) (name : Bytes)

theorem sameTables_acquireCached (indices : List Nat) (vfs : Vfs) :
    SameTables vfs (acquireCached parent name indices vfs).2 := by
  induction indices generalizing vfs with
  | nil => exact refl vfs
  | cons index rest hypothesis =>
    unfold acquireCached
    dsimp only
    split
    · exact hypothesis vfs
    · split
      · exact Trans.trans (sameTables_modifyCacheSlot vfs index _) (hypothesis _)
      · split
        · exact refl vfs
        · exact ⟨_, vfs.dentryCacheClock, rfl⟩

theorem sameTables_insertCached (dentry : Nat) (vfs : Vfs) :
    SameTables vfs (insertCached parent name dentry vfs).2 := by
  unfold insertCached
  dsimp only
  split
  · exact refl vfs
  · exact ⟨_, vfs.dentryCacheClock, rfl⟩

theorem sameTables_acquireDentry (vfs : Vfs) :
    SameTables vfs (acquireDentry parent name vfs).2 := by
  have ticked : SameTables vfs { vfs with dentryCacheClock := nextNonzero 64 vfs.dentryCacheClock } :=
    ⟨vfs.dentryCache, _, rfl⟩
  have searched := Trans.trans ticked (sameTables_acquireCached parent name
    (List.range maximumDentryCacheEntries) _)
  unfold acquireDentry
  dsimp only
  split
  · rename_i found outcome
    rwa [outcome] at searched
  · rename_i missed outcome
    rw [outcome] at searched
    split
    · exact searched
    · exact Trans.trans searched (sameTables_insertCached _ _ _ _)

theorem sameTables_releaseDentryReference (reference : DentryReference) (vfs : Vfs) :
    SameTables vfs (releaseDentryReference reference vfs) := by
  unfold releaseDentryReference
  dsimp only
  split
  · exact refl vfs
  · split
    · exact refl vfs
    · exact sameTables_modifyCacheSlot vfs _ _

theorem findDentry_sameTables : Keeps SameTables (findDentry parent name) := fun vfs => by
  have acquired := sameTables_acquireDentry parent name vfs
  simp only [findDentry]
  split
  · rename_i outcome
    rwa [outcome] at acquired
  · rename_i reference after outcome
    rw [outcome] at acquired
    exact Trans.trans acquired (sameTables_releaseDentryReference reference after)

section Walk

variable {jump : Nat → Bytes → VfsCall Nat}
  (jumps : ∀ node path, Keeps SameTables (jump node path))
include jumps

theorem enterDentry_sameTables (follow : Bool) (dentry : Nat) :
    Keeps SameTables (enterDentry jump follow dentry) :=
  keeps_state_bind fun _ => keeps_ite (jumps _ _) (keeps_pure _)

theorem stepInto_sameTables (follow : Bool) (current : Nat) (name : Bytes) :
    Keeps SameTables (stepInto jump follow current name) := fun vfs => by
  have acquired := sameTables_acquireDentry current name vfs
  simp only [stepInto]
  split
  · rename_i outcome
    rwa [outcome] at acquired
  · rename_i reference after outcome
    rw [outcome] at acquired
    exact Trans.trans acquired (keeps_closing (enterDentry_sameTables jumps follow _)
      (sameTables_releaseDentryReference reference) after)

end Walk

/-! ### A relation that every component of a walk keeps -/

section Lookups

variable {relation : Vfs → Vfs → Prop} [Std.Refl relation] [IsTrans Vfs relation]
  (steps : ∀ jump : Nat → Bytes → VfsCall Nat,
    (∀ node path, Keeps relation (jump node path)) →
      ∀ follow current name, Keeps relation (stepInto jump follow current name))
include steps

theorem walk_keeps {jump : Nat → Bytes → VfsCall Nat}
    (jumps : ∀ node path, Keeps relation (jump node path)) (followFinal : Bool)
    (credentials : Ownership) (current : Nat) (components : List (Bytes × Bool)) :
    Keeps relation (walk jump followFinal credentials current components) := by
  induction components generalizing current with
  | nil => exact keeps_ok current
  | cons component rest hypothesis =>
    obtain ⟨name, hasSuffix⟩ := component
    refine keeps_state_bind fun vfs => keeps_bind (keeps_failWhen _ _)
      fun _ => keeps_lift_bind fun _ => ?_
    refine keeps_ite (hypothesis _) (keeps_ite ?_ ?_)
    · exact keeps_lift_bind fun parent => hypothesis parent
    · exact keeps_bind (steps jump jumps _ _ _) fun next => hypothesis next

theorem resolveWith_keeps {jump : Nat → Bytes → VfsCall Nat}
    (jumps : ∀ node path, Keeps relation (jump node path)) (followFinal : Bool)
    (credentials : Ownership) (cwd : Nat) (path : Bytes) :
    Keeps relation (resolveWith jump followFinal credentials cwd path) := by
  refine keeps_lift_bind fun _ => keeps_state_bind fun vfs =>
    keeps_ite ?_ ?_
  · exact keeps_lift_bind fun directory =>
      keeps_lift_bind fun _ => keeps_pure _
  · exact keeps_lift_bind fun start =>
      walk_keeps steps jumps followFinal credentials start _

theorem resolveLink_keeps (credentials : Ownership) (links node : Nat) (path : Bytes) :
    Keeps relation (resolveLink credentials links node path) := by
  induction links generalizing node path with
  | zero => exact keeps_fail _
  | succ links hypothesis => exact resolveWith_keeps steps hypothesis _ _ _ _

theorem resolveInternalAs_keeps (cwd : Nat) (path : Bytes) (followFinal : Bool)
    (credentials : Ownership) :
    Keeps relation (resolveInternalAs cwd path followFinal credentials) :=
  resolveWith_keeps steps (resolveLink_keeps steps credentials _) _ _ _ _

theorem parentAndNameAs_keeps (cwd : Nat) (path : Bytes) (credentials : Ownership) :
    Keeps relation (parentAndNameAs cwd path credentials) :=
  keeps_lift_bind fun _ => keeps_failWhen_bind fun _ =>
    keeps_failWhen_bind fun _ =>
      keeps_bind (resolveInternalAs_keeps steps _ _ _ _) fun _ =>
        keeps_state_bind fun _ => keeps_lift_bind fun _ =>
          keeps_pure _

theorem entryForPathAs_keeps
    (finds : ∀ parent name, Keeps relation (findDentry parent name)) (cwd : Nat) (path : Bytes)
    (credentials : Ownership) : Keeps relation (entryForPathAs cwd path credentials) := by
  refine keeps_bind (parentAndNameAs_keeps steps _ _ _) fun ⟨parent, name⟩ =>
    keeps_bind (finds parent name) fun found => ?_
  cases found with
  | some entry => exact keeps_pure entry
  | none => exact keeps_fail _

end Lookups

variable (credentials : Ownership) (links : Nat)

theorem resolveLink_sameTables (node : Nat) (path : Bytes) :
    Keeps SameTables (resolveLink credentials links node path) :=
  resolveLink_keeps (fun _ => stepInto_sameTables) _ _ _ _

variable (cwd : Nat)

theorem resolveInternalAs_sameTables (path : Bytes) (followFinal : Bool) (credentials : Ownership) :
    Keeps SameTables (resolveInternalAs cwd path followFinal credentials) :=
  resolveInternalAs_keeps (fun _ => stepInto_sameTables) _ _ _ _

theorem resolveAs_sameTables (path : Bytes) (credentials : Ownership) :
    Keeps SameTables (resolveAs cwd path credentials) :=
  resolveInternalAs_sameTables _ _ _ _

theorem parentAndNameAs_sameTables (path : Bytes) (credentials : Ownership) :
    Keeps SameTables (parentAndNameAs cwd path credentials) :=
  parentAndNameAs_keeps (fun _ => stepInto_sameTables) _ _ _

theorem entryForPathAs_sameTables (path : Bytes) (credentials : Ownership) :
    Keeps SameTables (entryForPathAs cwd path credentials) :=
  entryForPathAs_keeps (fun _ => stepInto_sameTables) findDentry_sameTables _ _ _

/-! ### What a lookup finds -/

theorem eqlIgnoreCase_trans {first second third : Bytes} (start : eqlIgnoreCase first second = true)
    (finish : eqlIgnoreCase second third = true) : eqlIgnoreCase first third = true := by
  simp only [eqlIgnoreCase, beq_iff_eq] at start finish ⊢
  rw [start, finish]

variable {parent : Nat} {name : Bytes} {vfs after : Vfs} {reference : DentryReference}

/-- A cached entry that is still valid has the parent and the name that were asked for. -/
theorem acquireCached_named {indices : List Nat}
    (outcome : acquireCached parent name indices vfs = (some reference, after)) :
    reference.dentry < maximumDentries ∧ vfs.dentryNamed parent name reference.dentry = true := by
  induction indices generalizing vfs with
  | nil => simp [acquireCached] at outcome
  | cons index rest hypothesis =>
    unfold acquireCached at outcome
    dsimp only at outcome
    split at outcome
    · exact hypothesis outcome
    · rename_i wanted
      split at outcome
      · have found := hypothesis outcome
        exact found
      · rename_i valid
        simp only [not_or, Bool.not_eq_false, not_not] at wanted
        obtain ⟨_, _, sameParent, sameName⟩ := wanted
        simp only [cacheEntryValid, Bool.not_eq_false, Bool.and_eq_true, decide_eq_true_eq,
          beq_iff_eq] at valid
        obtain ⟨⟨⟨⟨below, used⟩, _⟩, parentOf⟩, nameOf⟩ := valid
        have named : vfs.dentryNamed parent name (vfs.dentryCache index).dentry = true := by
          simp only [dentryNamed, Bool.and_eq_true, beq_iff_eq]
          exact ⟨⟨used, parentOf.trans sameParent⟩, eqlIgnoreCase_trans nameOf sameName⟩
        split at outcome
        all_goals
          rw [← Option.some.inj (Prod.mk.inj outcome).1]
          exact ⟨below, named⟩

theorem acquireDentry_named (outcome : acquireDentry parent name vfs = (some reference, after)) :
    reference.dentry < maximumDentries ∧ vfs.dentryNamed parent name reference.dentry = true := by
  unfold acquireDentry at outcome
  dsimp only at outcome
  split at outcome
  · rename_i searched
    rw [← Option.some.inj (Prod.mk.inj outcome).1]
    have found := acquireCached_named searched
    exact found
  · rename_i missed searched
    have same := sameTables_acquireCached parent name (List.range maximumDentryCacheEntries)
      { vfs with dentryCacheClock := nextNonzero 64 vfs.dentryCacheClock }
    rw [searched] at same
    obtain ⟨cache, clock, rfl⟩ := same
    split at outcome
    · cases outcome
    · rename_i dentry found
      have dentryOf : reference.dentry = dentry := by
        unfold insertCached at outcome
        split at outcome
        all_goals
          obtain ⟨same, -⟩ := Prod.mk.inj outcome
          rw [← Option.some.inj same]
      rw [dentryOf]
      exact ⟨firstIndex_lt found, firstIndex_test found⟩

/-- When nothing is found, no entry has the name. -/
theorem acquireDentry_missing (outcome : acquireDentry parent name vfs = (none, after)) :
    ∀ dentry < maximumDentries, vfs.dentryNamed parent name dentry = false := by
  unfold acquireDentry at outcome
  dsimp only at outcome
  split at outcome
  · cases outcome
  · rename_i missed searched
    have same := sameTables_acquireCached parent name (List.range maximumDentryCacheEntries)
      { vfs with dentryCacheClock := nextNonzero 64 vfs.dentryCacheClock }
    rw [searched] at same
    obtain ⟨cache, clock, rfl⟩ := same
    split at outcome
    · rename_i missing
      exact firstIndex_eq_none.mp missing
    · cases outcome

theorem findDentry_some {dentry : Nat}
    (outcome : findDentry parent name vfs = (.ok (some dentry), after)) :
    dentry < maximumDentries ∧ vfs.dentryNamed parent name dentry = true := by
  simp only [findDentry] at outcome
  split at outcome
  · cases outcome
  · rename_i reference found acquired
    obtain ⟨same, -⟩ := Prod.mk.inj outcome
    rw [← Option.some.inj (ok.inj same)]
    exact acquireDentry_named acquired

theorem findDentry_none (outcome : findDentry parent name vfs = (.ok none, after)) :
    ∀ dentry < maximumDentries, vfs.dentryNamed parent name dentry = false := by
  simp only [findDentry] at outcome
  split at outcome
  · rename_i acquired
    exact acquireDentry_missing acquired
  · cases outcome

/-! ### A resolved node is linked -/

/-- Every node that a name, a mount or the root refers to is in use and has a link. -/
structure NamesLinked (vfs : Vfs) : Prop where
  root : vfs.nodeLinked 0 = true
  node : ∀ index < maximumDentries, (vfs.dentries index).used = true →
    vfs.nodeLinked (vfs.dentries index).node = true
  parent : ∀ index < maximumDentries, (vfs.dentries index).used = true →
    vfs.nodeLinked (vfs.dentries index).parent = true
  mount : ∀ index < maximumMounts, (vfs.mounts index).used = true →
    vfs.nodeLinked (vfs.mounts index).rootNode = true

variable {before : Vfs}

theorem SameTables.namesLinked (same : SameTables before after)
    (linked : before.NamesLinked) : after.NamesLinked := by
  obtain ⟨cache, clock, rfl⟩ := same
  exact ⟨linked.root, linked.node, linked.parent, linked.mount⟩

theorem SameTables.nodeLinked (same : SameTables before after) (node : Nat) :
    after.nodeLinked node = before.nodeLinked node := by
  obtain ⟨cache, clock, rfl⟩ := same
  rfl

variable {node : Nat}

theorem NamesLinked.followMount (linked : vfs.NamesLinked)
    (start : vfs.nodeLinked node = true) : vfs.nodeLinked (vfs.followMount node) = true := by
  unfold Vfs.followMount
  split
  · rename_i index found
    have covering := firstIndex_test found
    simp only [Bool.and_eq_true] at covering
    exact linked.mount index (firstIndex_lt found) covering.1.1
  · exact start

theorem NamesLinked.directoryParent (linked : vfs.NamesLinked)
    (found : vfs.directoryParent node = .ok parent) : vfs.nodeLinked parent = true := by
  unfold Vfs.directoryParent at found
  dsimp only at found
  split at found
  · cases found
    exact linked.root
  · split at found
    · cases found
    · split at found
      · rename_i entry canonical
        cases found
        have used := firstIndex_test canonical
        simp only [Bool.and_eq_true] at used
        exact linked.parent entry (firstIndex_lt canonical) used.1
      · cases found

theorem NamesLinked.validateDirectory (linked : vfs.NamesLinked) {directory : Nat}
    (found : vfs.validateDirectory node = .ok directory) : vfs.nodeLinked directory = true := by
  unfold Vfs.validateDirectory at found
  split at found
  · cases found
  · rename_i start
    split at found
    · cases found
    · cases found
      exact linked.followMount (by simpa using start)

/-- A call that finds linked nodes only. -/
def FindsLinked (call : VfsCall Nat) : Prop :=
  ∀ vfs node after, vfs.NamesLinked → call vfs = (.ok node, after) → vfs.nodeLinked node = true

section FindsLinked

variable {jump : Nat → Bytes → VfsCall Nat} (jumps : ∀ node path, FindsLinked (jump node path))
include jumps

theorem stepInto_linked (follow : Bool) (current : Nat) (name : Bytes) :
    FindsLinked (stepInto jump follow current name) := by
  intro vfs node after linked outcome
  have same := sameTables_acquireDentry current name vfs
  simp only [stepInto] at outcome
  split at outcome
  · cases outcome
  · rename_i reference acquired found
    obtain ⟨below, named⟩ := acquireDentry_named found
    simp only [dentryNamed, Bool.and_eq_true] at named
    rw [found] at same
    simp only [closing_apply, enterDentry, bind_state, Call.ite_apply,
      pure_apply] at outcome
    obtain ⟨result, -⟩ := Prod.mk.inj outcome
    rw [← same.nodeLinked]
    split at result
    · exact jumps _ _ acquired node _ (same.namesLinked linked) (Prod.ext result rfl)
    · cases result
      have acquiredLinked := same.namesLinked linked
      refine acquiredLinked.followMount (acquiredLinked.node _ below ?_)
      obtain ⟨cache, clock, rfl⟩ := same
      exact named.1.1

theorem walk_linked (jumpsKeep : ∀ node path, Keeps SameTables (jump node path))
    (followFinal : Bool) (credentials : Ownership) (components : List (Bytes × Bool))
    {current : Nat} (linked : vfs.NamesLinked) (start : vfs.nodeLinked current = true)
    (outcome : walk jump followFinal credentials current components vfs = (.ok node, after)) :
    vfs.nodeLinked node = true := by
  induction components generalizing current vfs with
  | nil =>
    obtain ⟨same, -⟩ := Prod.mk.inj outcome
    rwa [← ok.inj same]
  | cons component rest hypothesis =>
    obtain ⟨name, hasSuffix⟩ := component
    simp only [walk, bind_state] at outcome
    obtain ⟨_, passed, check, outcome⟩ := bind_ok_cases outcome
    rw [failWhen_apply] at check
    split at check
    · cases check
    · cases check
      obtain ⟨_, allowed, check, outcome⟩ := bind_ok_cases outcome
      obtain ⟨-, rfl⟩ := Prod.mk.inj check
      rw [Call.ite_apply, Call.ite_apply] at outcome
      split at outcome
      · exact hypothesis linked start outcome
      · split at outcome
        · obtain ⟨parent, climbed, check, outcome⟩ := bind_ok_cases outcome
          obtain ⟨found, rfl⟩ := Prod.mk.inj check
          exact hypothesis linked (linked.directoryParent found) outcome
        · obtain ⟨next, stepped, step, outcome⟩ := bind_ok_cases outcome
          have same := stepInto_sameTables jumpsKeep (followFinal || hasSuffix) current name vfs
          rw [step] at same
          have nextLinked := stepInto_linked jumps _ _ _ vfs next stepped linked step
          rw [← same.nodeLinked] at nextLinked ⊢
          exact hypothesis (same.namesLinked linked) nextLinked outcome

theorem resolveWith_linked (jumpsKeep : ∀ node path, Keeps SameTables (jump node path))
    (followFinal : Bool) (credentials : Ownership) (cwd : Nat) (path : Bytes) :
    FindsLinked (resolveWith jump followFinal credentials cwd path) := by
  intro vfs node after linked outcome
  unfold resolveWith at outcome
  obtain ⟨_, bounded, check, outcome⟩ := bind_ok_cases outcome
  obtain ⟨-, rfl⟩ := Prod.mk.inj check
  rw [bind_state, Call.ite_apply] at outcome
  split at outcome
  · obtain ⟨directory, validated, check, outcome⟩ := bind_ok_cases outcome
    obtain ⟨found, rfl⟩ := Prod.mk.inj check
    obtain ⟨_, allowed, check, outcome⟩ := bind_ok_cases outcome
    obtain ⟨same, -⟩ := Prod.mk.inj outcome
    rw [← ok.inj same]
    exact linked.validateDirectory found
  · obtain ⟨start, validated, check, outcome⟩ := bind_ok_cases outcome
    obtain ⟨found, rfl⟩ := Prod.mk.inj check
    refine walk_linked jumps jumpsKeep followFinal credentials _ linked ?_ outcome
    split at found
    · rw [← ok.inj found]
      exact linked.root
    · exact linked.validateDirectory found

end FindsLinked

theorem resolveLink_linked (node : Nat) (path : Bytes) :
    FindsLinked (resolveLink credentials links node path) := by
  induction links generalizing node path with
  | zero =>
    intro vfs found after _ outcome
    cases outcome
  | succ links hypothesis =>
    exact resolveWith_linked hypothesis (resolveLink_sameTables credentials links) _ _ _ _

theorem resolveInternalAs_linked (path : Bytes) (followFinal : Bool)
    (credentials : Ownership) : FindsLinked (resolveInternalAs cwd path followFinal credentials) :=
  resolveWith_linked (resolveLink_linked credentials _) (resolveLink_sameTables credentials _) _ _ _ _

theorem resolveAs_linked (path : Bytes) (credentials : Ownership) :
    FindsLinked (resolveAs cwd path credentials) := resolveInternalAs_linked _ _ _ _

/-! ### What a creation does -/

/-- The state allows a new node under this name and has room for it. -/
structure Creates (vfs : Vfs) (parent : Nat) (name : Bytes) (new : NewNode) (privileged : Bool)
    (node entry : Nat) : Prop where
  directory : ∃ visible, vfs.validateDirectory parent = .ok visible
  stored : validStoredMode new.mode = true
  unnamed : ∀ dentry < maximumDentries, vfs.dentryNamed parent name dentry = false
  writable : privileged = false → vfs.mountReadonly (vfs.nodes parent).mountId = false
  published : privileged = true → vfs.validatePseudoMountRoot parent = .ok ()
  freeNode : vfs.freeNode = .ok node
  freeDentry : vfs.freeDentry = .ok entry

/-- How a creation ends: it is refused after a lookup at most, or the new node is installed. -/
inductive Creation (vfs : Vfs) (parent : Nat) (name : Bytes) (new : NewNode) (privileged : Bool) :
    Except Error Nat → Vfs → Prop where
  | refused {failure : Error} {after : Vfs} (same : SameTables vfs after) :
    Creation vfs parent name new privileged (.error failure) after
  | made {found : Vfs} {node entry : Nat} (same : SameTables vfs found)
    (creates : Creates found parent name new privileged node entry) :
    Creation vfs parent name new privileged (.ok node) (found.installNode node entry parent name new)

theorem createNodeInternal_cases (parent : Nat) (name : Bytes) (new : NewNode) (privileged : Bool)
    (vfs : Vfs) : Yields (Creation vfs parent name new privileged) vfs
      (createNodeInternal parent name new privileged) := by
  have same := findDentry_sameTables parent name vfs
  refine yields_state (yields_lift (fun _ _ => .refused (refl vfs))
    fun visible directory => ?_)
  refine yields_failWhen (fun _ => .refused (refl vfs)) fun stored => ?_
  refine yields_bind (fun failure after lookup => ?_) fun existing found lookup => ?_
  · rw [lookup] at same
    exact .refused same
  · rw [lookup] at same
    refine yields_failWhen (fun _ => .refused same) fun missing => yields_state
      (yields_failWhen (fun _ => .refused same) fun writable => yields_lift
        (fun _ _ => .refused same) fun _ published => yields_failWhen
          (fun _ => .refused same) fun _ => ?_)
    refine yields_lift (fun _ _ => .refused same) fun node freeNode => yields_lift
      (fun _ _ => .refused same) fun entry freeDentry => yields_change (yields_pure ?_)
    obtain rfl : existing = none := by simpa using missing
    have unnamed := findDentry_none lookup
    obtain ⟨cache, clock, rfl⟩ := same
    refine .made ⟨cache, clock, rfl⟩ ⟨⟨visible, directory⟩, by simpa using stored, unnamed,
      fun unprivileged => ?_, fun isPrivileged => ?_, freeNode, freeDentry⟩
    · simpa [unprivileged] using fun readonly => writable ⟨.inr readonly, unprivileged⟩
    · rwa [if_pos isPrivileged] at published

/-! ### Calls on contents -/

/-- The two states differ at most in the contents of files. -/
structure DataOnly (before after : Vfs) : Prop where
  dentries : after.dentries = before.dentries
  mounts : after.mounts = before.mounts
  openFiles : after.openFiles = before.openFiles
  dentryCache : after.dentryCache = before.dentryCache
  allocator : after.filePageCacheAllocator = before.filePageCacheAllocator
  directoryEvents : after.directoryEvents = before.directoryEvents
  directoryEventSequence : after.directoryEventSequence = before.directoryEventSequence
  place : ∀ node, (after.nodes node).place = (before.nodes node).place

instance : Std.Refl DataOnly where
  refl _ := ⟨rfl, rfl, rfl, rfl, rfl, rfl, rfl, fun _ => rfl⟩

instance : IsTrans Vfs DataOnly where
  trans _ _ _ start finish :=
    ⟨finish.dentries.trans start.dentries, finish.mounts.trans start.mounts,
      finish.openFiles.trans start.openFiles, finish.dentryCache.trans start.dentryCache,
      finish.allocator.trans start.allocator, finish.directoryEvents.trans start.directoryEvents,
      finish.directoryEventSequence.trans start.directoryEventSequence,
      fun node => (finish.place node).trans (start.place node)⟩

/-- A field of a node that is not about its contents is unchanged. -/
theorem DataOnly.field {Field : Type} (data : DataOnly before after) (node : Nat)
    (get : Node → Field) (apart : ∀ entry : Node, get entry.place = get entry) :
    get (after.nodes node) = get (before.nodes node) := by
  rw [← apart (after.nodes node), data.place node, apart]

section Fields

variable {before after : Vfs} (data : DataOnly before after) (node : Nat)
include data

theorem DataOnly.used : (after.nodes node).used = (before.nodes node).used :=
  data.field node Node.used fun _ => rfl

theorem DataOnly.generation : (after.nodes node).generation = (before.nodes node).generation :=
  data.field node Node.generation fun _ => rfl

theorem DataOnly.linkCount : (after.nodes node).linkCount = (before.nodes node).linkCount :=
  data.field node Node.linkCount fun _ => rfl

theorem DataOnly.nodeUsed : after.nodeUsed node = before.nodeUsed node := by
  simp only [Vfs.nodeUsed, data.used]

theorem DataOnly.nodeLinked : after.nodeLinked node = before.nodeLinked node := by
  simp only [Vfs.nodeLinked, data.nodeUsed, data.linkCount]

end Fields

/-- A change of the contents or the times of one node. -/
theorem dataOnly_modifyNode (vfs : Vfs) (node : Nat) {step : Node → Node}
    (same : ∀ entry, (step entry).place = entry.place) : DataOnly vfs (vfs.modifyNode node step) := by
  refine ⟨rfl, rfl, rfl, rfl, rfl, rfl, rfl, fun other => ?_⟩
  obtain rfl | here := eq_or_ne other node
  · simp [modifyNode, same]
  · simp [modifyNode, here]

theorem dataOnly_of_nodes (nodes : after.nodes = before.nodes)
    (dentries : after.dentries = before.dentries) (mounts : after.mounts = before.mounts)
    (openFiles : after.openFiles = before.openFiles)
    (dentryCache : after.dentryCache = before.dentryCache)
    (allocator : after.filePageCacheAllocator = before.filePageCacheAllocator)
    (directoryEvents : after.directoryEvents = before.directoryEvents)
    (directoryEventSequence : after.directoryEventSequence = before.directoryEventSequence) :
    DataOnly before after :=
  ⟨dentries, mounts, openFiles, dentryCache, allocator, directoryEvents, directoryEventSequence,
    fun node => by rw [nodes]⟩

theorem dataOnly_modifyBlock (vfs : Vfs) (block : Nat) (step : DataBlock → DataBlock) :
    DataOnly vfs (vfs.modifyBlock block step) := dataOnly_of_nodes rfl rfl rfl rfl rfl rfl rfl rfl

theorem dataOnly_modifyPage (vfs : Vfs) (index : Nat)
    (step : FilePageCacheEntry → FilePageCacheEntry) : DataOnly vfs (vfs.modifyPage index step) :=
  dataOnly_of_nodes rfl rfl rfl rfl rfl rfl rfl rfl

theorem dataOnly_writePage (vfs : Vfs) (address : Nat) (page : Page) :
    DataOnly vfs (vfs.writePage address page) := dataOnly_of_nodes rfl rfl rfl rfl rfl rfl rfl rfl

theorem dataOnly_setFileBlock (vfs : Vfs) (node slot block : Nat) :
    DataOnly vfs (vfs.setFileBlock node slot block) := dataOnly_modifyNode vfs node fun _ => rfl

theorem dataOnly_setSize (vfs : Vfs) (node size : Nat) : DataOnly vfs (vfs.setSize node size) :=
  dataOnly_modifyNode vfs node fun _ => rfl

theorem dataOnly_touch (vfs : Vfs) (node tick : Nat) : DataOnly vfs (vfs.touch node tick) :=
  dataOnly_modifyNode vfs node fun _ => rfl

theorem dataOnly_allocateFileBlockLocked (node : Nat) (vfs : Vfs) (slot : Nat) :
    DataOnly vfs (allocateFileBlockLocked node vfs slot) := by
  unfold allocateFileBlockLocked
  split
  · exact Trans.trans (dataOnly_modifyBlock vfs _ _) (dataOnly_setFileBlock _ _ _ _)
  · exact refl vfs

theorem dataOnly_releaseFileBlockLocked (node : Nat) (vfs : Vfs) (slot : Nat) :
    DataOnly vfs (releaseFileBlockLocked node vfs slot) := by
  unfold releaseFileBlockLocked
  dsimp only
  split
  · exact refl vfs
  · exact Trans.trans (dataOnly_modifyBlock vfs _ _) (dataOnly_setFileBlock _ _ _ _)

theorem dataOnly_releaseAllFileBlocks (vfs : Vfs) (node : Nat) :
    DataOnly vfs (vfs.releaseAllFileBlocks node) :=
  foldl_keeps (dataOnly_releaseFileBlockLocked node) _ vfs

theorem dataOnly_modifyFileBlock (vfs : Vfs) (node slot : Nat) (step : Page → Page) :
    DataOnly vfs (vfs.modifyFileBlock node slot step) := by
  unfold modifyFileBlock
  dsimp only
  split
  · exact refl vfs
  · exact dataOnly_modifyBlock vfs _ _

theorem dataOnly_releaseFilePageCacheEntryLocked (index : Nat) (vfs : Vfs) :
    DataOnly vfs (releaseFilePageCacheEntryLocked index vfs).2 := by
  unfold releaseFilePageCacheEntryLocked
  dsimp only
  repeat' split
  all_goals first
    | exact refl vfs
    | exact dataOnly_of_nodes rfl rfl rfl rfl rfl rfl rfl rfl

theorem dataOnly_allocatePage (allocator : FilePageAllocator) (vfs : Vfs) :
    DataOnly vfs (allocatePage allocator vfs).2 := by
  unfold allocatePage
  dsimp only
  repeat' split
  all_goals exact dataOnly_of_nodes rfl rfl rfl rfl rfl rfl rfl rfl

theorem dataOnly_cachedFilePageLocked (node slot : Nat) (vfs : Vfs) :
    DataOnly vfs (cachedFilePageLocked node slot vfs).2 := by
  have ticked (clock : Nat) : DataOnly vfs { vfs with filePageCacheClock := clock } :=
    dataOnly_of_nodes rfl rfl rfl rfl rfl rfl rfl rfl
  unfold cachedFilePageLocked
  dsimp only
  split
  · exact dataOnly_of_nodes rfl rfl rfl rfl rfl rfl rfl rfl
  · split
    · rename_i allocator index _ _
      have released := Trans.trans (ticked (nextNonzero 64 vfs.filePageCacheClock))
        (dataOnly_releaseFilePageCacheEntryLocked index _)
      have allocated := Trans.trans released (dataOnly_allocatePage allocator _)
      split
      · rename_i outcome
        rw [outcome] at allocated
        exact Trans.trans allocated (dataOnly_of_nodes rfl rfl rfl rfl rfl rfl rfl rfl)
      · rename_i outcome
        rwa [outcome] at allocated
    · exact ticked _

theorem dataOnly_refreshPage (node : Nat) (vfs : Vfs) (index : Nat) :
    DataOnly vfs (refreshPage node vfs index) := by
  unfold refreshPage
  dsimp only
  split
  · exact refl vfs
  · split
    · exact Trans.trans (dataOnly_writePage vfs _ _) (dataOnly_modifyPage _ _ _)
    · exact dataOnly_releaseFilePageCacheEntryLocked index vfs

theorem dataOnly_invalidateFilePageCacheNode (vfs : Vfs) (node : Nat) :
    DataOnly vfs (vfs.invalidateFilePageCacheNode node) :=
  foldl_keeps (dataOnly_refreshPage node) _ vfs

theorem dataOnly_markDirtyFilePagesLocked (vfs : Vfs) (node : Nat) (bitmap : BitVec 8) :
    DataOnly vfs (vfs.markDirtyFilePagesLocked node bitmap) := by
  unfold markDirtyFilePagesLocked
  split
  · exact refl vfs
  · exact dataOnly_of_nodes rfl rfl rfl rfl rfl rfl rfl rfl

theorem dataOnly_markDirtyRange (vfs : Vfs) (node first last : Nat) :
    DataOnly vfs (vfs.markDirtyRange node first last) := by
  unfold markDirtyRange
  split
  · exact dataOnly_markDirtyFilePagesLocked vfs node _
  · exact refl vfs

theorem dataOnly_clearDirtyNodePagesLocked (vfs : Vfs) (node : Nat) :
    DataOnly vfs (vfs.clearDirtyNodePagesLocked node) := by
  unfold clearDirtyNodePagesLocked
  split
  · exact refl vfs
  · exact dataOnly_of_nodes rfl rfl rfl rfl rfl rfl rfl rfl

theorem dataOnly_discardDirtyFilePagesLocked (vfs : Vfs) (node : Nat) (bitmap : BitVec 8) :
    DataOnly vfs (vfs.discardDirtyFilePagesLocked node bitmap) := by
  unfold discardDirtyFilePagesLocked
  dsimp only
  split
  · exact refl vfs
  · exact dataOnly_of_nodes rfl rfl rfl rfl rfl rfl rfl rfl

theorem dataOnly_readSlot (node offset length slot : Nat) (vfs : Vfs) :
    DataOnly vfs (readSlot node offset length slot vfs).2 := by
  have cached := dataOnly_cachedFilePageLocked node slot vfs
  unfold readSlot
  dsimp only
  split
  all_goals
    rename_i outcome
    rwa [outcome] at cached

theorem dataOnly_readSlots (node offset length : Nat) (slots : List Nat) (vfs : Vfs) :
    DataOnly vfs (readSlots node offset length slots vfs).2 := by
  induction slots generalizing vfs with
  | nil => exact refl vfs
  | cons slot rest hypothesis =>
    exact Trans.trans (dataOnly_readSlot node offset length slot vfs) (hypothesis _)

theorem readContents_dataOnly (node offset length : Nat) :
    Keeps DataOnly (readContents node offset length) :=
  fun vfs => dataOnly_readSlots node offset length _ vfs

theorem dataOnly_copyIntoFileBlocks (vfs : Vfs) (node offset : Nat) (bytes : Bytes) :
    DataOnly vfs (vfs.copyIntoFileBlocks node offset bytes) :=
  foldl_keeps (fun vfs slot => dataOnly_modifyFileBlock vfs node slot _) _ vfs

theorem dataOnly_fillSlot (node : Nat) (vfs : Vfs) (slot : Nat) :
    DataOnly vfs (fillSlot node vfs slot) := by
  unfold fillSlot
  split
  · exact dataOnly_allocateFileBlockLocked node vfs slot
  · exact refl vfs

theorem prepareWriteBlocks_dataOnly (node offset length : Nat) (truncateFirst : Bool) :
    Keeps DataOnly (prepareWriteBlocks node offset length truncateFirst) := by
  refine keeps_state_bind fun vfs => keeps_bind (keeps_failWhen _ _)
    fun _ => keeps_change fun before => ?_
  split
  · exact Trans.trans (dataOnly_releaseAllFileBlocks before node)
      (foldl_keeps (dataOnly_fillSlot node) _ _)
  · exact foldl_keeps (dataOnly_fillSlot node) _ _

theorem dataOnly_storeBytes (node offset : Nat) (bytes : Bytes) (truncateFirst : Bool) (tick : Nat)
    (vfs : Vfs) : DataOnly vfs (storeBytes node offset bytes truncateFirst tick vfs) := by
  have started : DataOnly vfs (if truncateFirst then
      (vfs.setSize node 0).discardDirtyFilePagesLocked node (BitVec.allOnes 8) else vfs) := by
    split
    · exact Trans.trans (dataOnly_setSize vfs node 0)
        (dataOnly_discardDirtyFilePagesLocked _ _ _)
    · exact refl vfs
  have copied := Trans.trans started (dataOnly_copyIntoFileBlocks _ node offset bytes)
  have sized (size : Nat) := Trans.trans (Trans.trans copied
    (dataOnly_setSize _ node size)) (dataOnly_touch _ node tick)
  exact Trans.trans (Trans.trans (sized _)
    (dataOnly_invalidateFilePageCacheNode _ node)) (dataOnly_markDirtyRange _ _ _ _)

theorem writeNodeLocked_dataOnly (node offset : Nat) (bytes : Bytes) (truncateFirst : Bool)
    (tick : Nat) : Keeps DataOnly (writeNodeLocked node offset bytes truncateFirst tick) := by
  refine keeps_failWhen_bind fun _ => keeps_ite (keeps_pure _) ?_
  exact keeps_bind (prepareWriteBlocks_dataOnly _ _ _ _) fun _ => keeps_bind
    (keeps_change (dataOnly_storeBytes node offset bytes truncateFirst tick))
    fun _ => keeps_pure _

theorem dataOnly_shrinkBlocks (vfs : Vfs) (node size : Nat) :
    DataOnly vfs (vfs.shrinkBlocks node size) := by
  unfold shrinkBlocks
  dsimp only
  split
  · exact Trans.trans (dataOnly_modifyFileBlock vfs _ _ _)
      (foldl_keeps (dataOnly_releaseFileBlockLocked node) _ _)
  · exact foldl_keeps (dataOnly_releaseFileBlockLocked node) _ _

theorem dataOnly_trimDirtyFilePagesLocked (vfs : Vfs) (node : Nat) :
    DataOnly vfs (vfs.trimDirtyFilePagesLocked node) := dataOnly_discardDirtyFilePagesLocked vfs _ _

theorem dataOnly_truncateNodeLocked (node size tick : Nat) (vfs : Vfs) :
    DataOnly vfs (truncateNodeLocked node size tick vfs) := by
  have cut : DataOnly vfs (if size < (vfs.nodes node).size then vfs.shrinkBlocks node size
      else vfs) := by
    split
    · exact dataOnly_shrinkBlocks vfs node size
    · exact refl vfs
  have sized := Trans.trans cut (dataOnly_setSize _ node size)
  have touched := Trans.trans sized (dataOnly_touch _ node tick)
  have trimmed := Trans.trans (Trans.trans touched
    (dataOnly_invalidateFilePageCacheNode _ node)) (dataOnly_trimDirtyFilePagesLocked _ node)
  unfold truncateNodeLocked
  dsimp only
  split
  · exact Trans.trans trimmed (dataOnly_markDirtyFilePagesLocked _ _ _)
  · split
    · exact Trans.trans trimmed (dataOnly_markDirtyFilePagesLocked _ _ _)
    · exact trimmed

end Vfs

end ZigOs.RuntimeVfs
