/-
This file settles who owns a physical page. A pool runs over a manager that
other users allocate from and free to as well, and a log keeps count of the
references that were handed out and given back. The references an entry counts
are the ones that are outstanding, a page with outstanding references is
nowhere else to be had, and the last one to go returns it.
-/

import ZigOs.RuntimePagePool.Pool

namespace ZigOs.RuntimePagePool

open Scan Call Function PhysicalMemoryManager

/-! ### Runs -/

inductive Event where
  | allocated (address : Nat)
  | retained (address : Nat)
  | released (address : Nat)
  deriving DecidableEq

/-- A pool, the pages that the other users of its manager own, and what happened so far. -/
structure System where
  pool : Pool
  others : Finset Nat := ∅
  log : List Event := []

/-- The references that were handed out for the page. -/
def granted (log : List Event) (address : Nat) : Nat :=
  log.count (.allocated address) + log.count (.retained address)

/-- The references to the page that were given back. -/
def givenBack (log : List Event) (address : Nat) : Nat := log.count (.released address)

/-- The pages of a run of memory. -/
def pagesFrom (base pageCount : Nat) : Finset Nat :=
  (Finset.range pageCount).image fun index => base + index * pageBytes

namespace System

def allocate (system : System) (owner : Nat) : System :=
  match system.pool.allocate owner with
  | (some address, pool) => { system with pool, log := system.log ++ [.allocated address] }
  | (none, pool) => { system with pool }

def retainShared (system : System) (address owner : Nat) : System :=
  match Pool.retainShared address owner system.pool with
  | (.ok (), pool) => { system with pool, log := system.log ++ [.retained address] }
  | (.error _, pool) => { system with pool }

def release (system : System) (address owner : Nat) : System :=
  match Pool.release address owner system.pool with
  | (.ok _, pool) => { system with pool, log := system.log ++ [.released address] }
  | (.error _, pool) => { system with pool }

/-- Another user allocates from the manager. -/
def allocateOutside (system : System) (pageCount limit : Nat) : System :=
  match system.pool.manager with
  | none => system
  | some manager =>
    match manager.allocateContiguousBelow pageCount limit with
    | none => system
    | some (base, manager) =>
      { system with
        pool := { system.pool with manager := some manager }
        others := system.others ∪ pagesFrom base pageCount }

/-- Another user frees a page. -/
def freeOutside (system : System) (address : Nat) : System :=
  match system.pool.manager with
  | none => system
  | some manager =>
    match manager.free address with
    | .error _ => system
    | .ok manager =>
      { system with
        pool := { system.pool with manager := some manager }
        others := system.others.erase address }

end System

/-- The states that calls on the pool and other users of the manager can reach. The other users
free only what they own. -/
inductive Reachable : System → Prop where
  | fixedBase {base pageCount : Nat} {pool : Pool} (ready : Pool.fixedBase base pageCount = .ok pool) :
      Reachable { pool }
  | managed {extents : List Extents.Extent} {manager : PhysicalMemoryManager}
      {pageCount limit : Nat} {pool : Pool} (words : ∀ extent ∈ extents, extent.stop < 2 ^ 64)
      (built : initForTesting extents = some manager)
      (ready : Pool.initializeManager manager pageCount limit = .ok pool) : Reachable { pool }
  | allocate {system : System} (owner : Nat) : Reachable system → Reachable (system.allocate owner)
  | retainShared {system : System} (address owner : Nat) :
      Reachable system → Reachable (system.retainShared address owner)
  | release {system : System} (address owner : Nat) :
      Reachable system → Reachable (system.release address owner)
  | allocateOutside {system : System} (pageCount limit : Nat) :
      Reachable system → Reachable (system.allocateOutside pageCount limit)
  | freeOutside {system : System} (address : Nat) (owned : address ∈ system.others) :
      Reachable system → Reachable (system.freeOutside address)

/-! ### The invariant -/

/-- The references an entry counts for an address. -/
def Entry.counts (entry : Entry) (address : Nat) : Nat :=
  if entry.live ∧ entry.address = address then entry.references else 0

/-- The references the table counts for an address. -/
def Pool.held (pool : Pool) (address : Nat) : Nat :=
  ∑ index ∈ Finset.range pool.pageCount, (pool.entries index).counts address

/-- A page that somebody holds: memory of the manager that the manager will not hand out. -/
structure HeldPage (manager : PhysicalMemoryManager) (address : Nat) : Prop where
  multiple : pageBytes ∣ address
  managed : manager.IsManaged address
  held : ¬ manager.IsFree address

/-- The table and the pages of the other users agree with the manager and with the log. -/
structure Owned (system : System) : Prop where
  fixed : system.pool.manager = none → ∀ index < system.pool.pageCount,
    (system.pool.entries index).live = true →
      (system.pool.entries index).address = system.pool.base + index * pageBytes
  sound : ∀ manager, system.pool.manager = some manager → manager.Sound
  pages : ∀ manager, system.pool.manager = some manager → ∀ index < system.pool.pageCount,
    (system.pool.entries index).live = true →
      HeldPage manager (system.pool.entries index).address ∧
        (system.pool.entries index).address ∉ system.others
  others : ∀ manager, system.pool.manager = some manager → ∀ page ∈ system.others, HeldPage manager page
  distinct : ∀ first < system.pool.pageCount, ∀ second < system.pool.pageCount,
    (system.pool.entries first).live = true → (system.pool.entries second).live = true →
      (system.pool.entries first).address = (system.pool.entries second).address → first = second
  counted : ∀ index < system.pool.pageCount, (system.pool.entries index).live = true →
    0 < (system.pool.entries index).references ∧
      ((system.pool.entries index).state = .exclusive → (system.pool.entries index).references = 1)
  active : system.pool.active =
    countIndex system.pool.pageCount fun index => (system.pool.entries index).live
  shared : system.pool.shared =
    countIndex system.pool.pageCount fun index => (system.pool.entries index).state == .shared
  balance : ∀ address,
    granted system.log address = givenBack system.log address + system.pool.held address

variable {entry : Entry} {address : Nat}

section Held

variable {pool : Pool} {index : Nat}

theorem live_iff : entry.live = true ↔ entry.state ≠ .free := by
  simp [Entry.live]

theorem counts_of_live (live : entry.live = true) (address : Nat) :
    entry.counts address = if entry.address = address then entry.references else 0 := by
  simp only [Entry.counts, live, true_and]

theorem counts_of_free (free : entry.live = false) (address : Nat) : entry.counts address = 0 := by
  unfold Entry.counts
  rw [free, if_neg fun both => absurd both.1 (by decide)]

section Log

variable (log : List Event) (address other : Nat)

@[simp] theorem granted_allocated : granted (log ++ [.allocated address]) other =
    granted log other + if address = other then 1 else 0 := by
  simp only [granted, List.count_append, List.count_singleton, beq_iff_eq, Event.allocated.injEq,
    reduceCtorEq, if_false, add_zero]
  omega

@[simp] theorem granted_retained : granted (log ++ [.retained address]) other =
    granted log other + if address = other then 1 else 0 := by
  simp only [granted, List.count_append, List.count_singleton, beq_iff_eq, Event.retained.injEq,
    reduceCtorEq, if_false, add_zero]
  omega

@[simp] theorem granted_released :
    granted (log ++ [.released address]) other = granted log other := by
  simp [granted]

@[simp] theorem givenBack_allocated :
    givenBack (log ++ [.allocated address]) other = givenBack log other := by
  simp [givenBack]

@[simp] theorem givenBack_retained :
    givenBack (log ++ [.retained address]) other = givenBack log other := by
  simp [givenBack]

@[simp] theorem givenBack_released : givenBack (log ++ [.released address]) other =
    givenBack log other + if address = other then 1 else 0 := by
  simp only [givenBack, List.count_append, List.count_singleton, beq_iff_eq, Event.released.injEq]

end Log

/-- Replacing one entry changes a count by what the entry counts. -/
theorem held_set (below : index < pool.pageCount) (entry : Entry) (address : Nat) :
    (pool.set index entry).held address + (pool.entries index).counts address =
      pool.held address + entry.counts address := by
  have change := sum_change (fun other => (pool.entries other).counts address)
    (fun other => ((pool.set index entry).entries other).counts address) below
    fun other _ different => by
      simp only [Pool.set, update_of_ne different]
  simpa only [Pool.set, update_self, Pool.held] using change

theorem held_of_live (below : index < pool.pageCount) (live : (pool.entries index).live = true)
    (distinct : ∀ other < pool.pageCount, (pool.entries other).live = true →
      (pool.entries other).address = (pool.entries index).address → other = index) :
    pool.held (pool.entries index).address = (pool.entries index).references := by
  unfold Pool.held
  rw [Finset.sum_eq_single_of_mem index (Finset.mem_range.mpr below) fun other member different => ?_]
  · unfold Entry.counts
    rw [if_pos ⟨live, rfl⟩]
  · unfold Entry.counts
    rw [if_neg]
    rintro ⟨otherLive, same⟩
    exact different (distinct other (Finset.mem_range.mp member) otherLive same)

theorem held_of_none (nobody : ∀ index < pool.pageCount,
    (pool.entries index).live = true → (pool.entries index).address ≠ address) :
    pool.held address = 0 := by
  refine Finset.sum_eq_zero fun other member => ?_
  unfold Entry.counts
  rw [if_neg]
  rintro ⟨live, same⟩
  exact nobody other (Finset.mem_range.mp member) live same

end Held

variable {base pageCount limit : Nat}

/-! ### What keeps the invariant -/

section Manager

variable {manager after : PhysicalMemoryManager} {address page : Nat}

theorem HeldPage.of_fewer (held : HeldPage manager address) (managed : after.managed = manager.managed)
    (fewer : ∀ other, after.IsFree other → manager.IsFree other) : HeldPage after address := by
  refine ⟨held.multiple, ?_, fun isFree => held.held (fewer address isFree)⟩
  unfold PhysicalMemoryManager.IsManaged
  rw [managed]
  exact held.managed

/-- A page that comes back does not touch another one. -/
theorem HeldPage.of_returned (held : HeldPage manager address) (managed : after.managed = manager.managed)
    (multiple : pageBytes ∣ page) (different : address ≠ page)
    (returned : ∀ other, after.IsFree other ↔
      manager.IsFree other ∨ (page ≤ other ∧ other < page + pageBytes)) : HeldPage after address := by
  refine ⟨held.multiple, ?_, fun isFree => ?_⟩
  · unfold PhysicalMemoryManager.IsManaged
    rw [managed]
    exact held.managed
  · rcases (returned address).mp isFree with before | inside
    · exact held.held before
    · have first := held.multiple
      unfold pageBytes at first multiple inside
      omega

/-- The pages of an allocation were free and are held now. -/
theorem mem_pagesFrom :
    page ∈ pagesFrom base pageCount ↔ ∃ index < pageCount, base + index * pageBytes = page := by
  simp [pagesFrom]

theorem pagesFrom_held (sound : manager.Sound)
    (allocated : manager.allocateContiguousBelow pageCount limit = some (base, after))
    (member : page ∈ pagesFrom base pageCount) : HeldPage after page ∧ manager.IsFree page := by
  obtain ⟨-, managed, -, multiple, covered, apart⟩ := sound.allocate allocated
  obtain ⟨index, below, rfl⟩ := mem_pagesFrom.mp member
  have inside : base + index * pageBytes < base + pageCount * pageBytes :=
    Nat.add_lt_add_left (Nat.mul_lt_mul_of_pos_right below (by decide)) base
  have wasFree : manager.IsFree (base + index * pageBytes) :=
    (covered _).mpr (.inr ⟨Nat.le_add_right _ _, inside⟩)
  refine ⟨⟨dvd_add multiple (dvd_mul_left _ _), ?_, apart _ (Nat.le_add_right _ _) inside⟩, wasFree⟩
  unfold PhysicalMemoryManager.IsManaged
  rw [managed]
  exact sound.within _ wasFree

end Manager

variable {manager : PhysicalMemoryManager}

section Steps

variable {pool : Pool} {others : Finset Nat} {log : List Event} {index address : Nat}

/-- The free entries do not matter. -/
theorem Owned.congr {after : Pool} (owned : Owned ⟨pool, others, log⟩)
    (frame : after.base = pool.base ∧ after.pageCount = pool.pageCount ∧
      after.manager = pool.manager ∧ after.active = pool.active ∧ after.shared = pool.shared)
    (states : ∀ index, (after.entries index).state = (pool.entries index).state)
    (live : ∀ index, (pool.entries index).live = true → after.entries index = pool.entries index) :
    Owned ⟨after, others, log⟩ := by
  obtain ⟨base, pageCount, manager, active, shared⟩ := frame
  have same (index : Nat) : (after.entries index).live = (pool.entries index).live := by
    unfold Entry.live
    rw [states]
  have entry {index : Nat} (isLive : (after.entries index).live = true) :
      (pool.entries index).live = true ∧ after.entries index = pool.entries index :=
    ⟨same index ▸ isLive, live index (same index ▸ isLive)⟩
  refine ⟨?_, ?_, ?_, ?_, ?_, ?_, ?_, ?_, ?_⟩ <;> dsimp only
  · rw [manager, base, pageCount]
    intro none index below isLive
    obtain ⟨wasLive, sameEntry⟩ := entry isLive
    rw [sameEntry]
    exact owned.fixed none index below wasLive
  · rw [manager]
    exact owned.sound
  · rw [manager, pageCount]
    intro some isManager index below isLive
    obtain ⟨wasLive, sameEntry⟩ := entry isLive
    rw [sameEntry]
    exact owned.pages some isManager index below wasLive
  · rw [manager]
    exact owned.others
  · rw [pageCount]
    intro first firstBelow second secondBelow firstLive secondLive
    obtain ⟨firstWas, firstEntry⟩ := entry firstLive
    obtain ⟨secondWas, secondEntry⟩ := entry secondLive
    rw [firstEntry, secondEntry]
    exact owned.distinct first firstBelow second secondBelow firstWas secondWas
  · rw [pageCount]
    intro index below isLive
    obtain ⟨wasLive, sameEntry⟩ := entry isLive
    rw [sameEntry]
    exact owned.counted index below wasLive
  · rw [active, pageCount]
    refine owned.active.trans (countIndex_congr fun index _ => ?_).symm
    rw [same]
  · rw [shared, pageCount]
    refine owned.shared.trans (countIndex_congr fun index _ => ?_).symm
    rw [states]
  · intro address
    refine (owned.balance address).trans (congrArg _ ?_)
    unfold Pool.held
    rw [pageCount]
    refine Finset.sum_congr rfl fun index _ => ?_
    unfold Entry.counts
    rw [same]
    by_cases isLive : (pool.entries index).live = true
    · rw [live index isLive]
    · rw [if_neg fun both => isLive both.1, if_neg fun both => isLive both.1]

theorem Owned.forgetOthers (owned : Owned ⟨pool, others, log⟩) (index address : Nat) :
    Owned ⟨pool.forgetOthers index address, others, log⟩ := by
  refine owned.congr ⟨rfl, rfl, rfl, rfl, rfl⟩ (fun candidate => ?_) fun candidate isLive => ?_
  · unfold Pool.forgetOthers
    dsimp only
    split <;> rfl
  · unfold Pool.forgetOthers
    dsimp only
    rw [if_neg]
    rintro ⟨-, -, isFree, -⟩
    exact live_iff.mp isLive isFree

/-- The manager changed, and every page in use is still held. -/
theorem Owned.withManager {more : Finset Nat} (owned : Owned ⟨pool, others, log⟩)
    (sound : manager.Sound) (live : ∀ index < pool.pageCount, (pool.entries index).live = true →
      HeldPage manager (pool.entries index).address ∧ (pool.entries index).address ∉ more)
    (rest : ∀ page ∈ more, HeldPage manager page) :
    Owned ⟨{ pool with manager := some manager }, more, log⟩ := by
  refine ⟨nofun, ?_, ?_, ?_, owned.distinct, owned.counted, owned.active, owned.shared,
    owned.balance⟩
  · rintro _ ⟨⟩
    exact sound
  · rintro _ ⟨⟩
    exact live
  · rintro _ ⟨⟩
    exact rest

variable {after : PhysicalMemoryManager}

/-- A page is taken from the manager, for the pool or for another user. -/
theorem Owned.taken (owned : Owned ⟨pool, others, log⟩) (isManager : pool.manager = some manager)
    (allocated : manager.allocateContiguousBelow pageCount limit = some (base, after)) :
    Owned ⟨{ pool with manager := some after }, others, log⟩ ∧
      Owned ⟨{ pool with manager := some after }, others ∪ pagesFrom base pageCount, log⟩ := by
  have sound := owned.sound manager isManager
  obtain ⟨soundAfter, managed, -, -, covered, -⟩ := sound.allocate allocated
  have still {page : Nat} (held : HeldPage manager page) : HeldPage after page :=
    held.of_fewer managed fun other isFree => (covered other).mpr (.inl isFree)
  have live := owned.pages manager isManager
  have rest := owned.others manager isManager
  refine ⟨owned.withManager soundAfter (fun index below isLive => ?_) fun page member => ?_,
    owned.withManager soundAfter (fun index below isLive => ?_) fun page member => ?_⟩
  · exact ⟨still (live index below isLive).1, (live index below isLive).2⟩
  · exact still (rest page member)
  · obtain ⟨held, outside⟩ := live index below isLive
    refine ⟨still held, fun inside => ?_⟩
    rcases Finset.mem_union.mp inside with before | new
    · exact outside before
    · exact held.held (pagesFrom_held sound allocated new).2
  · rcases Finset.mem_union.mp member with before | new
    · exact still (rest page before)
    · exact (pagesFrom_held sound allocated new).1

/-- Another user gives back a page of its own. -/
theorem Owned.freedOutside (owned : Owned ⟨pool, others, log⟩)
    (isManager : pool.manager = some manager) (mine : address ∈ others)
    (freed : manager.free address = .ok after) :
    Owned ⟨{ pool with manager := some after }, others.erase address, log⟩ := by
  obtain ⟨soundAfter, managed, multiple, -, returned⟩ := (owned.sound manager isManager).free_ok freed
  refine owned.withManager soundAfter (fun index below isLive => ?_) fun page member => ?_
  · obtain ⟨held, outside⟩ := owned.pages manager isManager index below isLive
    refine ⟨held.of_returned managed multiple ?_ returned, fun inside =>
      outside (Finset.mem_of_mem_erase inside)⟩
    rintro same
    exact outside (same ▸ mine)
  · exact (owned.others manager isManager page (Finset.mem_of_mem_erase member)).of_returned managed
      multiple (Finset.ne_of_mem_erase member) returned

/-- A free entry takes a page that nobody has. -/
theorem Owned.claim (owned : Owned ⟨pool, others, log⟩) (below : index < pool.pageCount)
    (isFree : (pool.entries index).state = .free)
    (fresh : ∀ other < pool.pageCount, (pool.entries other).live = true →
      (pool.entries other).address ≠ address)
    (fixed : pool.manager = none → address = pool.base + index * pageBytes)
    (page : ∀ manager, pool.manager = some manager → HeldPage manager address ∧ address ∉ others)
    (owner : Nat) :
    Owned ⟨pool.claim index address owner, others, log ++ [.allocated address]⟩ := by
  have entry (other : Nat) : (pool.claim index address owner).entries other =
      if other = index then
        { state := .exclusive
          address
          owner
          references := 1
          generation := nextNonzero 32 (pool.entries index).generation }
      else pool.entries other := by
    simp only [Pool.claim, Pool.set, update_apply]
  have notLive : (pool.entries index).live = false := by simp [Entry.live, isFree]
  refine ⟨?_, owned.sound, ?_, owned.others, ?_, ?_, ?_, ?_, ?_⟩ <;> dsimp only
  · intro none other otherBelow isLive
    rw [entry] at isLive ⊢
    split at isLive
    · rename_i here
      rw [if_pos here, here]
      exact fixed none
    · rename_i elsewhere
      rw [if_neg elsewhere]
      exact owned.fixed none other otherBelow isLive
  · intro manager isManager other otherBelow isLive
    rw [entry] at isLive ⊢
    split at isLive
    · rename_i here
      rw [if_pos here]
      exact page manager isManager
    · rename_i elsewhere
      rw [if_neg elsewhere]
      exact owned.pages manager isManager other otherBelow isLive
  · intro first firstBelow second secondBelow firstLive secondLive same
    rw [entry] at firstLive secondLive
    rw [entry, entry] at same
    split_ifs at firstLive secondLive same with firstHere secondHere secondHere
    · rw [firstHere, secondHere]
    · exact absurd same.symm (fresh second secondBelow secondLive)
    · exact absurd same (fresh first firstBelow firstLive)
    · exact owned.distinct first firstBelow second secondBelow firstLive secondLive same
  · intro other otherBelow isLive
    rw [entry] at isLive ⊢
    split at isLive
    · rename_i here
      rw [if_pos here]
      exact ⟨Nat.one_pos, fun _ => rfl⟩
    · rename_i elsewhere
      rw [if_neg elsewhere]
      exact owned.counted other otherBelow isLive
  · have change := countIndex_change (fun other => (pool.entries other).live)
      (fun other => ((pool.claim index address owner).entries other).live) below
      fun other _ different => by rw [entry, if_neg different]
    rw [entry, if_pos rfl, notLive, Bool.toNat_false, add_zero] at change
    exact (congrArg (· + 1) owned.active).trans change.symm
  · refine owned.shared.trans (countIndex_congr fun other _ => ?_).symm
    rw [entry]
    split
    · rename_i here
      rw [here, isFree]
      rfl
    · rfl
  · intro other
    have change := held_set below
      { state := .exclusive
        address
        owner
        references := 1
        generation := nextNonzero 32 (pool.entries index).generation } other
    have balance := owned.balance other
    change granted (log ++ [Event.allocated address]) other =
      givenBack (log ++ [Event.allocated address]) other + (pool.set index _).held other
    rw [counts_of_free notLive, add_zero, counts_of_live (by rfl)] at change
    rw [change, granted_allocated, givenBack_allocated, ← add_assoc, ← balance]

/-- A live entry counts another number of references, or none and is free. -/
theorem Owned.set {after : List Event} (owned : Owned ⟨pool, others, log⟩) (active shared : Nat)
    (below : index < pool.pageCount) (live : (pool.entries index).live = true)
    (follows : entry.live = true → entry.address = (pool.entries index).address ∧
      0 < entry.references ∧ (entry.state = .exclusive → entry.references = 1))
    (activeCount : active + 1 = pool.active + entry.live.toNat)
    (sharedCount : shared + ((pool.entries index).state == .shared).toNat =
      pool.shared + (entry.state == .shared).toNat)
    (balance : ∀ other, granted after other + givenBack log other + (pool.entries index).counts other =
      granted log other + givenBack after other + entry.counts other) :
    Owned ⟨{ pool.set index entry with active, shared }, others, after⟩ := by
  have entries (other : Nat) : (pool.set index entry).entries other =
      if other = index then entry else pool.entries other := by
    simp only [Pool.set, update_apply]
  have old {other : Nat} (isLive : ((pool.set index entry).entries other).live = true) :
      (pool.entries other).live = true ∧
        ((pool.set index entry).entries other).address = (pool.entries other).address := by
    rw [entries] at isLive ⊢
    split at isLive
    · rename_i here
      rw [if_pos here, here]
      exact ⟨live, (follows isLive).1⟩
    · rename_i elsewhere
      rw [if_neg elsewhere]
      exact ⟨isLive, rfl⟩
  refine ⟨?_, owned.sound, ?_, owned.others, ?_, ?_, ?_, ?_, ?_⟩ <;> dsimp only
  · intro none other otherBelow isLive
    obtain ⟨wasLive, address⟩ := old isLive
    rw [address]
    exact owned.fixed none other otherBelow wasLive
  · intro manager isManager other otherBelow isLive
    obtain ⟨wasLive, address⟩ := old isLive
    rw [address]
    exact owned.pages manager isManager other otherBelow wasLive
  · intro first firstBelow second secondBelow firstLive secondLive same
    obtain ⟨firstWas, firstAddress⟩ := old firstLive
    obtain ⟨secondWas, secondAddress⟩ := old secondLive
    rw [firstAddress, secondAddress] at same
    exact owned.distinct first firstBelow second secondBelow firstWas secondWas same
  · intro other otherBelow isLive
    rw [entries] at isLive ⊢
    split at isLive
    · rename_i here
      rw [if_pos here]
      exact (follows isLive).2
    · rename_i elsewhere
      rw [if_neg elsewhere]
      exact owned.counted other otherBelow isLive
  · have change := countIndex_change (fun other => (pool.entries other).live)
      (fun other => ((pool.set index entry).entries other).live) below
      fun other _ different => by rw [entries, if_neg different]
    have counted := owned.active
    rw [entries, if_pos rfl, live, Bool.toNat_true] at change
    dsimp only at counted
    rw [counted] at activeCount
    exact Nat.add_right_cancel (activeCount.trans change.symm)
  · have change := countIndex_change (fun other => (pool.entries other).state == .shared)
      (fun other => ((pool.set index entry).entries other).state == .shared) below
      fun other _ different => by rw [entries, if_neg different]
    have counted := owned.shared
    rw [entries, if_pos rfl] at change
    dsimp only at counted
    rw [counted] at sharedCount
    exact Nat.add_right_cancel (sharedCount.trans change.symm)
  · intro other
    have change := held_set below entry other
    have before := owned.balance other
    have moved := balance other
    change granted after other = givenBack after other + (pool.set index entry).held other
    dsimp only at before
    omega

/-- The entry of an address that is in use is the one that holds it. -/
theorem Owned.resolve (owned : Owned ⟨pool, others, log⟩) (resolved : pool.resolve address = .ok index)
    (live : (pool.entries index).live = true) :
    index < pool.pageCount ∧ (pool.entries index).address = address := by
  unfold Pool.resolve at resolved
  split at resolved
  · split at resolved
    · rename_i found isFound
      cases resolved
      have test := firstIndex_test isFound
      simp only [Bool.and_eq_true, beq_iff_eq] at test
      exact ⟨firstIndex_lt isFound, test.1⟩
    · split at resolved
      · rename_i found isFound
        cases resolved
        have test := firstIndex_test isFound
        exact ⟨firstIndex_lt isFound, beq_iff_eq.mp test⟩
      · cases resolved
  · rename_i noManager
    split_ifs at resolved with low odd high
    cases resolved
    have below := not_le.mp high
    refine ⟨below, ?_⟩
    have formula := owned.fixed (by simpa using noManager) _ below live
    dsimp only at formula
    rw [formula]
    have whole := Nat.div_add_mod (address - pool.base) pageBytes
    rw [not_not.mp odd, add_zero, mul_comm] at whole
    omega

/-- An address in use resolves to its entry. -/
theorem Owned.resolve_live (owned : Owned ⟨pool, others, log⟩) (below : index < pool.pageCount)
    (live : (pool.entries index).live = true) :
    pool.resolve (pool.entries index).address = .ok index := by
  unfold Pool.resolve
  split
  · obtain ⟨found, isFound⟩ := @exists_firstIndex pool.pageCount index
      (fun other => (pool.entries other).address == (pool.entries index).address &&
        (pool.entries other).live) below (by simp [live])
    have test := firstIndex_test isFound
    simp only [Bool.and_eq_true, beq_iff_eq] at test
    rw [isFound, owned.distinct found (firstIndex_lt isFound) index below test.2 live test.1]
  · rename_i noManager
    have formula := owned.fixed (by simpa using noManager) index below live
    dsimp only at formula
    rw [formula, if_neg (by omega), Nat.add_sub_cancel_left, if_neg (by simp),
      Nat.mul_div_cancel _ (by decide), if_neg (by omega)]

end Steps

variable {owner index : Nat}

/-! ### The calls -/

section Calls

variable {pool : Pool} {others : Finset Nat} {log : List Event}

/-- What an allocation does: fill a free entry with a page that nobody has, or nothing but take a
page from the manager. -/
theorem Owned.allocate (owned : Owned ⟨pool, others, log⟩) (owner : Nat) :
    (∃ address after, pool.allocate owner = (some address, after) ∧
        Owned ⟨after, others, log ++ [.allocated address]⟩ ∧
        ∀ index < pool.pageCount, (pool.entries index).live = true →
          (pool.entries index).address ≠ address) ∨
      ∃ after, pool.allocate owner = (none, after) ∧ Owned ⟨after, others, log⟩ := by
  unfold Pool.allocate
  split
  · exact .inr ⟨pool, rfl, owned⟩
  · split
    · exact .inr ⟨pool, rfl, owned⟩
    · rename_i available isAvailable
      have below := firstIndex_lt isAvailable
      have isFree : (pool.entries available).state = .free := by
        simpa using firstIndex_test isAvailable
      split
      · rename_i noManager
        -- Above a fixed base the addresses follow the entries.
        have fresh : ∀ index < pool.pageCount, (pool.entries index).live = true →
            (pool.entries index).address ≠ pool.base + available * pageBytes := by
          intro index indexBelow isLive same
          have formula := owned.fixed noManager index indexBelow isLive
          dsimp only at formula
          have sameIndex : index = available := by
            rw [formula] at same
            exact Nat.eq_of_mul_eq_mul_right (by decide) (Nat.add_left_cancel same)
          rw [sameIndex] at isLive
          exact live_iff.mp isLive isFree
        refine .inl ⟨_, _, rfl, owned.claim below isFree fresh (fun _ => rfl) ?_ owner, fresh⟩
        intro manager isManager
        rw [noManager] at isManager
        cases isManager
      · rename_i manager isManager
        split
        · exact .inr ⟨pool, rfl, owned⟩
        · rename_i physical drained allocated
          have drainedPool := (owned.taken isManager allocated).1
          have sound := owned.sound manager isManager
          obtain ⟨held, wasFree⟩ := pagesFrom_held sound allocated
            (mem_pagesFrom.mpr ⟨0, Nat.one_pos, by rw [Nat.zero_mul, Nat.add_zero]⟩)
          have outside : physical ∉ others := fun inside =>
            (owned.others manager isManager physical inside).held wasFree
          dsimp only
          split
          · exact .inr ⟨_, rfl, drainedPool⟩
          · rename_i unseen
            have missed := firstIndex_eq_none.mp (Option.not_isSome_iff_eq_none.mp unseen)
            have fresh : ∀ index < pool.pageCount, (pool.entries index).live = true →
                (pool.entries index).address ≠ physical := by
              intro index indexBelow isLive same
              have fails := missed index indexBelow
              rw [isLive, same] at fails
              simp at fails
            -- The entry is the first free one, or the one that remembers the address.
            obtain ⟨index, isIndex, indexBelow, indexFree⟩ : ∃ index,
                (firstIndex pool.pageCount fun index => (pool.entries index).state == .free &&
                  (pool.entries index).address == physical).getD available = index ∧
                  index < pool.pageCount ∧ (pool.entries index).state = .free := by
              cases remembered : firstIndex pool.pageCount fun index =>
                (pool.entries index).state == .free && (pool.entries index).address == physical with
              | none => exact ⟨available, rfl, below, isFree⟩
              | some index =>
                have test := firstIndex_test remembered
                simp only [Bool.and_eq_true, beq_iff_eq] at test
                exact ⟨index, rfl, firstIndex_lt remembered, test.1⟩
            rw [isIndex]
            have forgets (other : Nat) :
                ((({ pool with manager := some drained } : Pool).forgetOthers index physical).entries
                    other).state = (pool.entries other).state ∧
                  ((pool.entries other).live = true →
                    (({ pool with manager := some drained } : Pool).forgetOthers index physical).entries
                      other = pool.entries other) := by
              unfold Pool.forgetOthers
              dsimp only
              split
              · rename_i forgotten
                exact ⟨rfl, fun isLive => absurd forgotten.2.2.1 (live_iff.mp isLive)⟩
              · exact ⟨rfl, fun _ => rfl⟩
            refine .inl ⟨physical, _, rfl, ?_, fresh⟩
            refine (drainedPool.forgetOthers index physical).claim indexBelow
              ((forgets index).1.trans indexFree) (fun other otherBelow isLive => ?_) nofun
              (by rintro _ ⟨⟩; exact ⟨held, outside⟩) owner
            have wasLive : (pool.entries other).live = true := by
              rw [live_iff] at isLive ⊢
              rwa [(forgets other).1] at isLive
            rw [(forgets other).2 wasLive]
            exact fresh other otherBelow wasLive

/-- The entry after its last reference is gone. -/
def Entry.released (entry : Entry) : Entry :=
  { entry with state := .free, owner := 0, references := 0 }

/-- The table after the last reference to a page is gone. -/
def Pool.dropped (pool returned : Pool) (index address : Nat) : Pool :=
  let freed := returned.set index (pool.entries index).released
  let single := if pool.manager.isSome then freed.forgetOthers index address else freed
  { single with
    shared := if (pool.entries index).state = .shared then pool.shared - 1 else pool.shared
    active := pool.active - 1 }

/-- What a call may do with the entry: it is live, and an exclusive one belongs to the caller. -/
structure Permits (pool : Pool) (address owner index : Nat) : Prop where
  resolved : pool.resolve address = .ok index
  live : (pool.entries index).live = true
  mine : (pool.entries index).state = .exclusive → (pool.entries index).owner = owner

inductive Retained (pool : Pool) (address owner : Nat) : Except PoolError Unit → Pool → Prop
  | refused (failure : PoolError) : Retained pool address owner (.error failure) pool
  | granted {index : Nat} (permits : Permits pool address owner index) :
      Retained pool address owner (.ok ())
        { pool.set index { pool.entries index with
            state := .shared
            owner := if (pool.entries index).state = .exclusive then 0 else (pool.entries index).owner
            references := (pool.entries index).references + 1 } with
          shared := if (pool.entries index).state = .exclusive then pool.shared + 1 else pool.shared }

inductive Released (pool : Pool) (address owner : Nat) :
    Except PoolError ReleaseResult → Pool → Prop
  | refused (failure : PoolError) : Released pool address owner (.error failure) pool
  | retained {index : Nat} (permits : Permits pool address owner index)
      (more : 1 < (pool.entries index).references) :
      Released pool address owner (.ok .retained)
        (pool.set index { pool.entries index with references := (pool.entries index).references - 1 })
  | freed {index : Nat} (permits : Permits pool address owner index)
      (last : (pool.entries index).references ≤ 1) {returned : Pool}
      (isReturned : pool.returnPage address = .ok returned) :
      Released pool address owner (.ok .freed) (pool.dropped returned index address)

theorem permits_of_passes (resolved : pool.resolve address = .ok index)
    (live : (pool.entries index).state ≠ .free)
    (mine : ¬ ((pool.entries index).state = .exclusive ∧ (pool.entries index).owner ≠ owner)) :
    Permits pool address owner index :=
  ⟨resolved, live_iff.mpr live, fun exclusive => not_not.mp fun other => mine ⟨exclusive, other⟩⟩

theorem retainShared_retained (pool : Pool) (address owner : Nat) :
    Yields (Retained pool address owner) pool (Pool.retainShared address owner) := by
  refine yields_state (yields_lift (fun failure _ => .refused failure) fun index resolved => ?_)
  refine yields_failWhen (fun _ => .refused _) fun live =>
    yields_failWhen (fun _ => .refused _) fun mine =>
      yields_failWhen (fun _ => .refused _) fun _ => ?_
  have granted := Retained.granted (permits_of_passes resolved live mine)
  unfold Yields
  rw [change_apply]
  by_cases exclusive : (pool.entries index).state = .exclusive
  · rw [if_pos exclusive, if_pos exclusive] at granted
    rwa [if_pos exclusive]
  · have isShared : (pool.entries index).state = .shared := by
      cases state : (pool.entries index).state with
      | free => exact absurd state live
      | exclusive => exact absurd state exclusive
      | shared => rfl
    rw [if_neg exclusive, if_neg exclusive, ← isShared] at granted
    rwa [if_neg exclusive]

theorem release_released (pool : Pool) (address owner : Nat) :
    Yields (Released pool address owner) pool (Pool.release address owner) := by
  refine yields_state (yields_lift (fun failure _ => .refused failure) fun index resolved => ?_)
  refine yields_failWhen (fun _ => .refused _) fun live =>
    yields_failWhen (fun _ => .refused _) fun mine => ?_
  have permits := permits_of_passes resolved live mine
  refine yields_ite (fun more => ?_) fun last => ?_
  · exact yields_change (yields_pure (.retained permits more))
  · refine yields_lift (fun failure _ => .refused failure) fun returned isReturned =>
      yields_change (yields_pure ?_)
    exact .freed permits (not_lt.mp last) isReturned

theorem Owned.retained {address owner : Nat} {after : Pool} (owned : Owned ⟨pool, others, log⟩)
    (retained : Retained pool address owner (.ok ()) after) :
    Owned ⟨after, others, log ++ [.retained address]⟩ := by
  cases retained with
  | @granted index permits =>
    obtain ⟨below, isAddress⟩ := owned.resolve permits.resolved permits.live
    obtain ⟨positive, -⟩ := owned.counted index below permits.live
    refine owned.set pool.active _ below permits.live
      (fun _ => ⟨rfl, Nat.succ_pos _, nofun⟩) rfl ?_ fun other => ?_
    · cases state : (pool.entries index).state with
      | free => exact absurd state (live_iff.mp permits.live)
      | exclusive => rfl
      | shared => rfl
    · rw [granted_retained, givenBack_retained, counts_of_live permits.live, counts_of_live (by rfl)]
      dsimp only
      rw [isAddress]
      split <;> omega

theorem Owned.released_retained (owned : Owned ⟨pool, others, log⟩)
    (permits : Permits pool address owner index) (more : 1 < (pool.entries index).references) :
    Owned ⟨pool.set index { pool.entries index with references := (pool.entries index).references - 1 },
      others, log ++ [.released address]⟩ := by
  obtain ⟨below, isAddress⟩ := owned.resolve permits.resolved permits.live
  obtain ⟨-, exclusive⟩ := owned.counted index below permits.live
  have still : Entry.live { pool.entries index with
      references := (pool.entries index).references - 1 } = true := permits.live
  refine owned.set pool.active pool.shared below permits.live
    (fun _ => ⟨rfl, Nat.sub_pos_of_lt more, fun state => ?_⟩) ?_ rfl fun other => ?_
  · have single := exclusive state
    dsimp only at single
    omega
  · rw [still]
    rfl
  · rw [granted_released, givenBack_released, counts_of_live permits.live, counts_of_live still]
    dsimp only
    rw [isAddress]
    split <;> omega

/-- The last reference goes, and the page is nobody's. -/
theorem Owned.released_freed {returned : Pool} (owned : Owned ⟨pool, others, log⟩)
    (permits : Permits pool address owner index) (last : (pool.entries index).references ≤ 1)
    (isReturned : pool.returnPage address = .ok returned) :
    Owned ⟨pool.dropped returned index address, others, log ++ [.released address]⟩ := by
  obtain ⟨below, isAddress⟩ := owned.resolve permits.resolved permits.live
  obtain ⟨positive, -⟩ := owned.counted index below permits.live
  have only : (pool.entries index).references = 1 := le_antisymm last positive
  have dropped : Owned ⟨{ pool.set index (pool.entries index).released with
      active := pool.active - 1
      shared := if (pool.entries index).state = .shared then pool.shared - 1 else pool.shared },
      others, log ++ [.released address]⟩ := by
    refine owned.set _ _ below permits.live nofun ?_ ?_ fun other => ?_
    · have counted := countIndex_pos (fun other => (pool.entries other).live) below permits.live
      have active := owned.active
      dsimp only at active
      rw [← active] at counted
      exact Nat.sub_add_cancel counted
    · by_cases state : (pool.entries index).state = .shared
      · have counted := countIndex_pos (fun other => (pool.entries other).state == .shared) below
          (by simp [state])
        have shared := owned.shared
        dsimp only at shared
        rw [← shared] at counted
        rw [if_pos state, state]
        exact Nat.sub_add_cancel counted
      · rw [if_neg state, beq_eq_false_iff_ne.mpr state]
        rfl
    · rw [granted_released, givenBack_released, counts_of_live permits.live, counts_of_free (by rfl),
        isAddress, only]
      omega
  unfold Pool.returnPage at isReturned
  split at isReturned
  · rename_i noManager
    cases isReturned
    unfold Pool.dropped
    rwa [noManager]
  · rename_i manager isManager
    split at isReturned
    · rename_i after freed
      cases isReturned
      have sound := owned.sound manager isManager
      obtain ⟨soundAfter, managed, multiple, -, back⟩ := sound.free_ok freed
      unfold Pool.dropped
      rw [isManager]
      refine (Owned.withManager dropped soundAfter (fun other otherBelow isLive => ?_)
        fun page member => ?_).forgetOthers index address
      · have elsewhere : other ≠ index := by
          rintro rfl
          simp [Pool.set, Entry.released, Entry.live] at isLive
        simp only [Pool.set, update_of_ne elsewhere] at isLive ⊢
        obtain ⟨held, outside⟩ := owned.pages manager isManager other otherBelow isLive
        refine ⟨held.of_returned managed multiple (fun same => elsewhere ?_) back, outside⟩
        exact owned.distinct other otherBelow index below isLive permits.live (same.trans isAddress.symm)
      · refine (owned.others manager isManager page member).of_returned managed multiple ?_ back
        rintro rfl
        exact (owned.pages manager isManager index below permits.live).2 (isAddress ▸ member)
    · cases isReturned

end Calls

/-! ### Every reachable state -/

/-- An empty table over a sound manager, or over none. -/
theorem owned_empty {pool : Pool} (empty : ∀ index, pool.entries index = {})
    (counters : pool.active = 0 ∧ pool.shared = 0)
    (sound : ∀ manager, pool.manager = some manager → manager.Sound) : Owned { pool } := by
  have dead (index : Nat) : (pool.entries index).live = false := by rw [empty]; rfl
  have never {index : Nat} (live : (pool.entries index).live = true) : False :=
    absurd (live.symm.trans (dead index)) (by decide)
  refine ⟨fun _ _ _ live => (never live).elim, sound, fun _ _ _ _ live => (never live).elim,
    fun _ _ _ member => absurd member (Finset.notMem_empty _),
    fun _ _ _ _ live => (never live).elim, fun _ _ live => (never live).elim, ?_, ?_, fun address => ?_⟩
  · rw [counters.1]
    exact (countIndex_eq_zero.mpr fun index _ => dead index).symm
  · rw [counters.2]
    exact (countIndex_eq_zero.mpr fun index _ => by rw [empty]; rfl).symm
  · have none_held : pool.held address = 0 :=
      held_of_none fun _ _ live => (never live).elim
    rw [none_held]
    rfl

variable {system : System}

theorem Owned.allocate_step (owned : Owned system) (owner : Nat) :
    Owned (system.allocate owner) := by
  obtain ⟨pool, others, log⟩ := system
  unfold System.allocate
  rcases owned.allocate owner with ⟨address, after, outcome, kept, -⟩ | ⟨after, outcome, kept⟩
  · dsimp only
    rwa [outcome]
  · dsimp only
    rwa [outcome]

theorem Owned.retainShared_step (owned : Owned system) (address owner : Nat) :
    Owned (system.retainShared address owner) := by
  obtain ⟨pool, others, log⟩ := system
  have retained := retainShared_retained pool address owner
  unfold Yields at retained
  unfold System.retainShared
  dsimp only
  rcases outcome : Pool.retainShared address owner pool with ⟨failure | done, after⟩
  · rw [outcome] at retained
    cases retained
    exact owned
  · rw [outcome] at retained
    exact owned.retained retained

theorem Owned.release_step (owned : Owned system) (address owner : Nat) :
    Owned (system.release address owner) := by
  obtain ⟨pool, others, log⟩ := system
  have released := release_released pool address owner
  unfold Yields at released
  unfold System.release
  dsimp only
  rcases outcome : Pool.release address owner pool with ⟨failure | result, after⟩
  · rw [outcome] at released
    cases released
    exact owned
  · rw [outcome] at released
    cases released with
    | retained permits more => exact owned.released_retained permits more
    | freed permits last isReturned => exact owned.released_freed permits last isReturned

theorem Reachable.owned (reachable : Reachable system) : Owned system := by
  induction reachable with
  | fixedBase ready =>
    unfold Pool.fixedBase at ready
    split_ifs at ready
    cases ready
    exact owned_empty (fun _ => rfl) ⟨rfl, rfl⟩ nofun
  | managed words built ready =>
    unfold Pool.initializeManager at ready
    split_ifs at ready
    cases ready
    refine owned_empty (fun _ => rfl) ⟨rfl, rfl⟩ ?_
    rintro _ ⟨⟩
    exact (initForTesting_untouched words built).sound
  | allocate owner _ owned => exact owned.allocate_step owner
  | retainShared address owner _ owned => exact owned.retainShared_step address owner
  | release address owner _ owned => exact owned.release_step address owner
  | @allocateOutside system pageCount limit _ owned =>
    unfold System.allocateOutside
    split
    · exact owned
    · rename_i manager isManager
      split
      · exact owned
      · rename_i allocated
        exact (Owned.taken owned isManager allocated).2
  | @freeOutside system address mine _ owned =>
    unfold System.freeOutside
    split
    · exact owned
    · rename_i manager isManager
      split
      · exact owned
      · rename_i freed
        exact Owned.freedOutside owned isManager mine freed

/-- Who owns what, in the state of a run. -/
structure PageOwnership (system : System) : Prop where
  distinct : ∀ first < system.pool.pageCount, ∀ second < system.pool.pageCount,
    (system.pool.entries first).live = true → (system.pool.entries second).live = true →
      (system.pool.entries first).address = (system.pool.entries second).address → first = second
  unavailable : ∀ manager, system.pool.manager = some manager → ∀ index < system.pool.pageCount,
    (system.pool.entries index).live = true →
      ¬ manager.IsFree (system.pool.entries index).address ∧
        (system.pool.entries index).address ∉ system.others
  counters : system.pool.active =
      countIndex system.pool.pageCount (fun index => (system.pool.entries index).live) ∧
    system.pool.shared =
      countIndex system.pool.pageCount fun index => (system.pool.entries index).state == .shared
  outstanding : (∀ index < system.pool.pageCount, (system.pool.entries index).live = true →
      0 < (system.pool.entries index).references ∧
        granted system.log (system.pool.entries index).address =
          givenBack system.log (system.pool.entries index).address +
            (system.pool.entries index).references) ∧
    ∀ address, (∀ index < system.pool.pageCount, (system.pool.entries index).live = true →
        (system.pool.entries index).address ≠ address) →
      granted system.log address = givenBack system.log address
  allocates : ∀ owner address after, system.pool.allocate owner = (some address, after) →
    granted system.log address = givenBack system.log address
  releases : ∀ address owner result after,
    Pool.release address owner system.pool = (result, after) →
      (result = .ok .freed →
        granted system.log address = givenBack system.log address + 1 ∧
          ∀ manager, system.pool.manager = some manager →
            ¬ manager.IsFree address ∧ ∃ returned, after.manager = some returned ∧
              ∀ other, returned.IsFree other ↔
                manager.IsFree other ∨ (address ≤ other ∧ other < address + pageBytes)) ∧
      (result = .ok .retained → givenBack system.log address + 1 < granted system.log address) ∧
      (result ≠ .ok .freed → after.manager = system.pool.manager)
  keeps : ∀ manager, system.pool.manager = some manager →
    (∀ owner, ∃ left, (system.pool.allocate owner).2.manager = some left ∧
      ∀ other, left.IsFree other → manager.IsFree other) ∧
    ∀ address owner, (Pool.retainShared address owner system.pool).2.manager = some manager
  returns : ∀ index < system.pool.pageCount, (system.pool.entries index).live = true →
    (system.pool.entries index).references = 1 → ∀ owner,
      ((system.pool.entries index).state = .exclusive → (system.pool.entries index).owner = owner) →
      (∀ manager, system.pool.manager = some manager →
        manager.freeExtents.length < maximumPhysicalExtents) →
        ∃ after, Pool.release (system.pool.entries index).address owner system.pool =
          (.ok .freed, after)
  owners : ∀ index < system.pool.pageCount, (system.pool.entries index).state = .exclusive →
    ∀ owner, owner ≠ (system.pool.entries index).owner →
      Pool.release (system.pool.entries index).address owner system.pool =
        (.error .ownerMismatch, system.pool)

section Properties

variable {pool : Pool} {others : Finset Nat} {log : List Event}

theorem Owned.outstanding_live (owned : Owned ⟨pool, others, log⟩) (below : index < pool.pageCount)
    (live : (pool.entries index).live = true) : granted log (pool.entries index).address =
      givenBack log (pool.entries index).address + (pool.entries index).references := by
  rw [← held_of_live below live fun other otherBelow otherLive same =>
    owned.distinct other otherBelow index below otherLive live same]
  exact owned.balance _

theorem Owned.outstanding_none (owned : Owned ⟨pool, others, log⟩)
    (nobody : ∀ index < pool.pageCount, (pool.entries index).live = true →
      (pool.entries index).address ≠ address) : granted log address = givenBack log address := by
  have balance := owned.balance address
  rwa [held_of_none nobody, add_zero] at balance

/-- The last reference to go returns the page, and nothing else does. -/
theorem Owned.releases (owned : Owned ⟨pool, others, log⟩) {result : Except PoolError ReleaseResult}
    {after : Pool} (released : Released pool address owner result after) : (result = .ok .freed →
      granted log address = givenBack log address + 1 ∧
        ∀ manager, pool.manager = some manager →
          ¬ manager.IsFree address ∧ ∃ returned, after.manager = some returned ∧
            ∀ other, returned.IsFree other ↔
              manager.IsFree other ∨ (address ≤ other ∧ other < address + pageBytes)) ∧
    (result = .ok .retained → givenBack log address + 1 < granted log address) ∧
    (result ≠ .ok .freed → after.manager = pool.manager) := by
  cases released with
  | refused failure => exact ⟨nofun, nofun, fun _ => rfl⟩
  | @retained index permits more =>
    obtain ⟨below, isAddress⟩ := owned.resolve permits.resolved permits.live
    refine ⟨nofun, fun _ => ?_, fun _ => rfl⟩
    have balance := owned.outstanding_live below permits.live
    rw [isAddress] at balance
    omega
  | @freed index permits last returned isReturned =>
    obtain ⟨below, isAddress⟩ := owned.resolve permits.resolved permits.live
    refine ⟨fun _ => ⟨?_, fun manager isManager => ?_⟩, nofun, fun other => absurd rfl other⟩
    · have balance := owned.outstanding_live below permits.live
      obtain ⟨positive, -⟩ := owned.counted index below permits.live
      dsimp only at positive
      rw [isAddress] at balance
      omega
    · unfold Pool.returnPage at isReturned
      rw [isManager] at isReturned
      dsimp only at isReturned
      split at isReturned
      · rename_i back freed
        cases isReturned
        obtain ⟨-, -, -, held, covered⟩ := (owned.sound manager isManager).free_ok freed
        refine ⟨held, back, ?_, covered⟩
        unfold Pool.dropped
        rw [isManager]
        rfl
      · cases isReturned

theorem Owned.returns (owned : Owned ⟨pool, others, log⟩) (below : index < pool.pageCount)
    (live : (pool.entries index).live = true) (only : (pool.entries index).references = 1)
    (mine : (pool.entries index).state = .exclusive → (pool.entries index).owner = owner)
    (room : ∀ manager, pool.manager = some manager →
      manager.freeExtents.length < maximumPhysicalExtents) :
    ∃ after, Pool.release (pool.entries index).address owner pool = (.ok .freed, after) := by
  obtain ⟨returned, isReturned⟩ : ∃ returned,
      pool.returnPage (pool.entries index).address = .ok returned := by
    unfold Pool.returnPage
    split
    · exact ⟨pool, rfl⟩
    · rename_i manager isManager
      obtain ⟨held, -⟩ := owned.pages manager isManager index below live
      obtain ⟨after, freed⟩ := (owned.sound manager isManager).free_held held.multiple held.managed
        held.held (room manager isManager)
      exact ⟨{ pool with manager := some after }, by rw [freed]⟩
  refine ⟨pool.dropped returned index (pool.entries index).address, ?_⟩
  unfold Pool.release
  simp only [bind_state, owned.resolve_live below live, bind_lift_ok, bind_failWhen]
  rw [if_neg (live_iff.mp live), if_neg fun both => both.2 (mine both.1), Call.ite_apply,
    if_neg (by rw [only]; decide), isReturned]
  rfl

theorem Owned.owners (owned : Owned ⟨pool, others, log⟩) (below : index < pool.pageCount)
    (exclusive : (pool.entries index).state = .exclusive)
    (stranger : owner ≠ (pool.entries index).owner) :
    Pool.release (pool.entries index).address owner pool = (.error .ownerMismatch, pool) := by
  have live : (pool.entries index).live = true := by simp [Entry.live, exclusive]
  unfold Pool.release
  simp only [bind_state, owned.resolve_live below live, bind_lift_ok, bind_failWhen]
  rw [if_neg (live_iff.mp live), if_pos ⟨exclusive, stranger.symm⟩]

/-- Neither an allocation nor a retain returns anything to the manager. -/
theorem Owned.keeps (owned : Owned ⟨pool, others, log⟩) (isManager : pool.manager = some manager) :
    (∀ owner, ∃ left, (pool.allocate owner).2.manager = some left ∧
      ∀ other, left.IsFree other → manager.IsFree other) ∧
    ∀ address owner, (Pool.retainShared address owner pool).2.manager = some manager := by
  refine ⟨fun owner => ?_, fun address owner => ?_⟩
  · have same : ∃ left, pool.manager = some left ∧
        ∀ other, left.IsFree other → manager.IsFree other := ⟨manager, isManager, fun _ => id⟩
    unfold Pool.allocate
    split
    · exact same
    · split
      · exact same
      · rw [isManager]
        dsimp only
        split
        · exact same
        · rename_i physical drained allocated
          have fewer := ((owned.sound manager isManager).allocate allocated).2.2.2.2.1
          have drains : ∀ other, drained.IsFree other → manager.IsFree other :=
            fun other isFree => (fewer other).mpr (.inl isFree)
          split <;> exact ⟨drained, rfl, drains⟩
  · have retained := retainShared_retained pool address owner
    unfold Yields at retained
    rcases outcome : Pool.retainShared address owner pool with ⟨result, after⟩
    rw [outcome] at retained
    cases retained with
    | refused failure => exact isManager
    | granted permits => exact isManager

end Properties

/-- In every state that a run reaches, a page belongs to those who hold references to it. -/
theorem reachable_pageOwnership {system : System} (reachable : Reachable system) :
    PageOwnership system := by
  have owned := reachable.owned
  obtain ⟨pool, others, log⟩ := system
  refine ⟨owned.distinct, fun manager isManager index below live => ?_, ⟨owned.active, owned.shared⟩,
    ⟨fun index below live => ⟨(owned.counted index below live).1, owned.outstanding_live below live⟩,
      fun address => owned.outstanding_none⟩, fun owner address after outcome => ?_,
    fun address owner result after outcome => ?_, fun manager => owned.keeps,
    fun index below live only owner => owned.returns below live only,
    fun index below exclusive owner => owned.owners below exclusive⟩
  · obtain ⟨held, outside⟩ := owned.pages manager isManager index below live
    exact ⟨held.held, outside⟩
  · rcases owned.allocate owner with ⟨found, left, result, -, fresh⟩ | ⟨left, result, -⟩
    · cases result.symm.trans outcome
      exact owned.outstanding_none fresh
    · cases result.symm.trans outcome
  · have released := release_released pool address owner
    unfold Yields at released
    dsimp only at outcome
    rw [outcome] at released
    exact owned.releases released

/-- A manager of four pages. -/
def smallManager : PhysicalMemoryManager :=
  { managed := [⟨0x600000, 0x604000⟩], freeExtents := [⟨0x600000, 0x604000⟩], totalPages := 4 }

/-- A pool of two pages, one of which is shared and released once. -/
def sharedPage : System :=
  let start : System :=
    { pool := { manager := some smallManager, pageCount := 2, limitExclusive := 2 ^ 32 } }
  ((start.allocate 7).retainShared 0x600000 7).release 0x600000 9

theorem sharedPage_pageOwnership :
    sharedPage.pool.active = 1 ∧ sharedPage.pool.shared = 1 ∧ PageOwnership sharedPage := by
  have built : initForTesting [⟨0x600000, 0x604000⟩] = some smallManager := by
    decide
  have ready : Pool.initializeManager smallManager 2 (2 ^ 32) =
      .ok { manager := some smallManager, pageCount := 2, limitExclusive := 2 ^ 32 } := rfl
  refine ⟨by decide +kernel, by decide +kernel, reachable_pageOwnership ?_⟩
  refine .release 0x600000 9 (.retainShared 0x600000 7 (.allocate 7 (.managed ?_ built ready)))
  decide

end ZigOs.RuntimePagePool
