/-
This file shows that the cache of directory entries only saves work. As long as
the names of a directory are distinct, a cached lookup names the entry that a
scan of the table names, and a path resolves to the same node whatever the
cache holds.
-/

import ZigOs.RuntimeVfs.Upkeep

namespace ZigOs.RuntimeVfs

open Call Vfs

namespace Vfs

/-! ### One lookup -/

/-- A lookup through the cache names the entry that the scan names. -/
def CacheTransparent (vfs : Vfs) : Prop :=
  ∀ parent name, (acquireDentry parent name vfs).1.map DentryReference.dentry =
    vfs.findDentryUncached parent name

theorem NamesUnique.cacheTransparent {vfs : Vfs} (unique : vfs.NamesUnique) : vfs.CacheTransparent := by
  intro parent name
  rcases outcome : acquireDentry parent name vfs with ⟨_ | reference, after⟩
  · exact (Scan.firstIndex_eq_none.mpr (acquireDentry_missing outcome)).symm
  · obtain ⟨below, named⟩ := acquireDentry_named outcome
    obtain ⟨first, found⟩ := Scan.exists_firstIndex below named
    have same := unique.eq_of_named below (Scan.firstIndex_lt found) named (Scan.firstIndex_test found)
    rw [Option.map_some, same]
    exact found.symm

/-- Lookups change the cache only, so that they leave the names distinct. -/
theorem SameTables.namesUnique {before after : Vfs} (same : SameTables before after)
    (unique : before.NamesUnique) : after.NamesUnique := by
  obtain ⟨cache, clock, rfl⟩ := same
  exact (namesUnique_congr rfl).mpr unique

/-! ### Two walks -/

/-- The two states have the same tables, with distinct names, and caches of their own. -/
structure Alike (first second : Vfs) : Prop where
  unique : first.NamesUnique
  same : SameTables first second

variable {first second : Vfs}

theorem SameTables.symm (same : SameTables first second) : SameTables second first := by
  obtain ⟨cache, clock, rfl⟩ := same
  exact ⟨first.dentryCache, first.dentryCacheClock, rfl⟩

/-- Each of the two goes on with a lookup of its own. -/
theorem Alike.lookups {third fourth : Vfs} (alike : Alike first second)
    (left : SameTables first third) (right : SameTables second fourth) : Alike third fourth :=
  ⟨left.namesUnique alike.unique,
    IsTrans.trans _ _ _ left.symm (IsTrans.trans _ _ _ alike.same right)⟩

theorem findDentryUncached_congr (same : SameTables first second) (parent : Nat)
    (name : Bytes) : second.findDentryUncached parent name = first.findDentryUncached parent name := by
  obtain ⟨cache, clock, rfl⟩ := same
  rfl

/-- Two alike states find the same entry. -/
theorem Alike.acquires (alike : Alike first second) (parent : Nat) (name : Bytes) :
    (acquireDentry parent name second).1.map DentryReference.dentry =
      (acquireDentry parent name first).1.map DentryReference.dentry := by
  rw [alike.unique.cacheTransparent, (alike.same.namesUnique alike.unique).cacheTransparent,
    findDentryUncached_congr alike.same]

theorem Alike.findDentry (alike : Alike first second) (parent : Nat)
    (name : Bytes) : Agree Alike first second (Vfs.findDentry parent name) (Vfs.findDentry parent name) := by
  have found := alike.acquires parent name
  refine ⟨?_, alike.lookups (findDentry_sameTables parent name first)
    (findDentry_sameTables parent name second)⟩
  simp only [Vfs.findDentry]
  generalize acquireDentry parent name first = answer at found ⊢
  generalize acquireDentry parent name second = otherAnswer at found ⊢
  obtain ⟨_ | reference, after⟩ := answer <;> obtain ⟨_ | other, otherAfter⟩ := otherAnswer
  · rfl
  · cases found
  · cases found
  · dsimp only
    rw [show other.dentry = reference.dentry from Option.some.inj found]

section Walk

variable {jump : Nat → Bytes → VfsCall Nat} (quiet : ∀ node path, Keeps SameTables (jump node path))
  (jumps : ∀ first second, Alike first second → ∀ node path,
    Agree Alike first second (jump node path) (jump node path))
include quiet jumps

theorem Alike.stepInto (alike : Alike first second) (follow : Bool) (current : Nat)
    (name : Bytes) : Agree Alike first second (Vfs.stepInto jump follow current name)
      (Vfs.stepInto jump follow current name) := by
  have found := alike.acquires current name
  have left := sameTables_acquireDentry current name first
  have right := sameTables_acquireDentry current name second
  refine ⟨?_, alike.lookups (stepInto_sameTables quiet follow current name first)
    (stepInto_sameTables quiet follow current name second)⟩
  simp only [Vfs.stepInto]
  generalize acquireDentry current name first = answer at found left ⊢
  generalize acquireDentry current name second = otherAnswer at found right ⊢
  obtain ⟨_ | reference, after⟩ := answer <;> obtain ⟨_ | other, otherAfter⟩ := otherAnswer
  · rfl
  · cases found
  · cases found
  · have sameEntry : other.dentry = reference.dentry := Option.some.inj found
    have reached := alike.lookups left right
    have entered : Agree Alike after otherAfter (enterDentry jump follow reference.dentry)
        (enterDentry jump follow reference.dentry) := by
      obtain ⟨cache, clock, rfl⟩ := reached.same
      exact agree_state (agree_ite (fun _ => jumps _ _ reached _ _) fun _ => agree_pure reached)
    dsimp only
    rw [sameEntry]
    exact entered.1

theorem Alike.walk (alike : Alike first second) (followFinal : Bool) (credentials : Ownership)
    (current : Nat) (components : List (Bytes × Bool)) :
    Agree Alike first second (walk jump followFinal credentials current components)
      (walk jump followFinal credentials current components) := by
  induction components generalizing current first second with
  | nil => exact ⟨rfl, alike⟩
  | cons component rest hypothesis =>
    obtain ⟨name, hasSuffix⟩ := component
    have stepped := fun current => alike.stepInto quiet jumps (followFinal || hasSuffix) current name
    obtain ⟨unique, cache, clock, rfl⟩ := alike
    have alike : Alike first { first with dentryCache := cache, dentryCacheClock := clock } :=
      ⟨unique, cache, clock, rfl⟩
    refine agree_state (agree_failWhen alike fun _ => agree_lift alike fun _ _ => ?_)
    refine agree_ite (fun _ => hypothesis alike _) fun _ => agree_ite (fun _ => ?_) fun _ => ?_
    · exact agree_lift alike fun parent _ => hypothesis alike parent
    · exact agree_bind (stepped current) fun next _ _ related => hypothesis related next

theorem Alike.resolveWith (alike : Alike first second) (followFinal : Bool)
    (credentials : Ownership) (cwd : Nat) (path : Bytes) :
    Agree Alike first second (resolveWith jump followFinal credentials cwd path)
      (resolveWith jump followFinal credentials cwd path) := by
  have walked := fun start => alike.walk quiet jumps followFinal credentials start (pathComponents path)
  obtain ⟨unique, cache, clock, rfl⟩ := alike
  have alike : Alike first { first with dentryCache := cache, dentryCacheClock := clock } :=
    ⟨unique, cache, clock, rfl⟩
  refine agree_lift alike fun _ _ => agree_state (agree_ite (fun _ => ?_) fun _ => ?_)
  · exact agree_lift alike fun directory _ => agree_lift alike fun _ _ => agree_pure alike
  · exact agree_lift alike fun start _ => walked start

end Walk

theorem Alike.resolveLink (alike : Alike first second) (credentials : Ownership) (links node : Nat)
    (path : Bytes) : Agree Alike first second
      (resolveLink credentials links node path) (resolveLink credentials links node path) := by
  induction links generalizing first second node path with
  | zero => exact agree_fail alike
  | succ links hypothesis =>
    exact alike.resolveWith (resolveLink_sameTables credentials links)
      (fun _ _ related node path => hypothesis related node path) true credentials node path

/-- A path resolves to the same node, or fails the same way, whatever the cache holds. -/
theorem Alike.resolveInternalAs (alike : Alike first second) (cwd : Nat) (path : Bytes)
    (followFinal : Bool) (credentials : Ownership) : Agree Alike first second
      (resolveInternalAs cwd path followFinal credentials)
      (resolveInternalAs cwd path followFinal credentials) :=
  alike.resolveWith (resolveLink_sameTables credentials _)
    (fun _ _ related node path => related.resolveLink credentials _ node path) _ _ _ _

theorem Alike.parentAndNameAs (alike : Alike first second) (cwd : Nat) (path : Bytes)
    (credentials : Ownership) : Agree Alike first second
      (parentAndNameAs cwd path credentials) (parentAndNameAs cwd path credentials) := by
  refine agree_lift alike fun _ _ => agree_failWhen alike fun _ => agree_failWhen alike fun _ => ?_
  refine agree_bind (alike.resolveInternalAs _ _ _ _) fun parent middle otherMiddle related => ?_
  obtain ⟨unique, cache, clock, rfl⟩ := related
  have related : Alike middle { middle with dentryCache := cache, dentryCacheClock := clock } :=
    ⟨unique, cache, clock, rfl⟩
  exact agree_state (agree_lift related fun _ _ => agree_pure related)

theorem Alike.entryForPathAs (alike : Alike first second) (cwd : Nat) (path : Bytes)
    (credentials : Ownership) : Agree Alike first second
      (entryForPathAs cwd path credentials) (entryForPathAs cwd path credentials) := by
  refine agree_bind (alike.parentAndNameAs _ _ _) fun ⟨parent, name⟩ _ _ related => ?_
  refine agree_bind (related.findDentry parent name) fun found _ _ answered => ?_
  cases found with
  | some entry => exact agree_pure answered
  | none => exact agree_fail answered

end Vfs

end ZigOs.RuntimeVfs
