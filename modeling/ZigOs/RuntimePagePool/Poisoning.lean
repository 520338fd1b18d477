/-
This file is about the contents of pages that are released. A pool may be set
to overwrite a page that loses its last reference, and it does so before the
manager takes the page back. When the manager refuses, the page stays with its
owner and its contents are gone; every other refusal leaves everything alone.
-/

import ZigOs.RuntimePagePool.Ownership

namespace ZigOs.RuntimePagePool

open Extents Call

abbrev poisonByte : UInt8 := 0xA5

/-- The pool with the contents of memory, byte by byte. -/
structure PagedPool extends Pool where
  poisonOnFree : Bool := false
  contents : Nat → UInt8 := fun _ => 0

abbrev PagedCall := Call PoolError PagedPool

namespace PagedPool

/-- Fill a page with the poison byte, if the pool does that. -/
def poison (paged : PagedPool) (address : Nat) : PagedPool :=
  if paged.poisonOnFree then
    { paged with
      contents := fun byte =>
        if address ≤ byte ∧ byte < address + pageBytes then poisonByte else paged.contents byte }
  else paged

def retainShared (address owner : Nat) : PagedCall Unit :=
  Call.within toPool (fun pool paged => { paged with toPool := pool }) (Pool.retainShared address owner)

def release (address owner : Nat) : PagedCall ReleaseResult := do
  let paged ← Call.state
  let pool := paged.toPool
  let index ← lift (pool.resolve address)
  let entry := pool.entries index
  failWhen (entry.state = .free) .doubleFree
  failWhen (entry.state = .exclusive ∧ entry.owner ≠ owner) .ownerMismatch
  if entry.references > 1 then do
    change fun paged =>
      { paged with toPool := pool.set index { entry with references := entry.references - 1 } }
    return .retained
  else do
    change fun paged => paged.poison address
    let returned ← lift (pool.returnPage address)
    change fun paged => { paged with toPool := pool.dropped returned index address }
    return .freed

/-! ### What a release does -/

variable {paged after : PagedPool} {address owner index : Nat}

@[simp] theorem poison_toPool : (paged.poison address).toPool = paged.toPool := by
  unfold poison
  split <;> rfl

/-- Without the contents, this is the release of the pool. -/
theorem release_toPool (paged : PagedPool) (address owner : Nat) :
    Pool.release address owner paged.toPool =
      ((release address owner paged).1, (release address owner paged).2.toPool) := by
  unfold release Pool.release
  simp only [bind_state]
  rcases paged.toPool.resolve address with error | index
  · rfl
  · simp only [bind_lift_ok, bind_failWhen, Pool.dropped, Entry.released]
    split_ifs
    · rfl
    · rfl
    · rfl
    all_goals
      simp only [bind_change]
      rcases paged.toPool.returnPage address with error | returned
      · simp only [bind_lift_error, poison_toPool]
      · rfl

/-- The manager behind the pool does not take the page back. -/
def BackingRefuses (pool : Pool) (address : Nat) : Prop :=
  ∃ manager error, pool.manager = some manager ∧ manager.free address = .error error

theorem returnPage_ok_or_refuses (pool : Pool) (address : Nat) :
    (∃ returned, pool.returnPage address = .ok returned ∧ ¬ BackingRefuses pool address) ∨
      (pool.returnPage address = .error .backingAllocatorFailure ∧ BackingRefuses pool address) := by
  unfold Pool.returnPage BackingRefuses
  rcases pool.manager with _ | manager
  · exact .inl ⟨_, rfl, by rintro ⟨_, _, ⟨⟩, _⟩⟩
  · dsimp only
    rcases outcome : manager.free address with error | returned
    · exact .inr ⟨rfl, manager, error, rfl, outcome⟩
    · refine .inl ⟨_, rfl, ?_⟩
      rintro ⟨other, error, same, refused⟩
      cases same
      cases outcome.symm.trans refused

/-- The release drops the last reference to a page. -/
def DropsLast (pool : Pool) (address owner : Nat) : Prop :=
  ∃ index, Permits pool address owner index ∧ (pool.entries index).references ≤ 1

/-- A release that fails has changed nothing, unless it dropped the last reference and the
manager refused: then the page was overwritten. -/
theorem release_failed (paged : PagedPool) (address owner : Nat) :
    (∃ result, (release address owner paged).1 = .ok result ∧
        ¬ (DropsLast paged.toPool address owner ∧ BackingRefuses paged.toPool address)) ∨
      (∃ error, release address owner paged = (.error error, paged) ∧
        ¬ DropsLast paged.toPool address owner) ∨
      (release address owner paged = (.error .backingAllocatorFailure, paged.poison address) ∧
        DropsLast paged.toPool address owner ∧ BackingRefuses paged.toPool address) := by
  unfold release
  simp only [bind_state]
  rcases resolved : paged.toPool.resolve address with error | index
  · refine .inr (.inl ⟨error, rfl, ?_⟩)
    rintro ⟨index, permits, -⟩
    cases resolved.symm.trans permits.resolved
  · have only {other : Nat} (permits : Permits paged.toPool address owner other) : other = index :=
      Except.ok.inj (permits.resolved.symm.trans resolved)
    simp only [bind_lift_ok, bind_failWhen]
    split_ifs with isFree foreign more
    · refine .inr (.inl ⟨_, rfl, ?_⟩)
      rintro ⟨other, permits, -⟩
      obtain rfl := only permits
      exact live_iff.mp permits.live isFree
    · refine .inr (.inl ⟨_, rfl, ?_⟩)
      rintro ⟨other, permits, -⟩
      obtain rfl := only permits
      exact foreign.2 (permits.mine foreign.1)
    · refine .inl ⟨.retained, rfl, ?_⟩
      rintro ⟨⟨other, permits, last⟩, -⟩
      obtain rfl := only permits
      exact absurd more (not_lt.mpr last)
    · have drops : DropsLast paged.toPool address owner :=
        ⟨index, permits_of_passes resolved isFree foreign, not_lt.mp more⟩
      simp only [bind_change]
      rcases returnPage_ok_or_refuses paged.toPool address with
        ⟨returned, accepted, taken⟩ | ⟨failed, refuses⟩
      · rw [accepted]
        exact .inl ⟨.freed, rfl, fun both => taken both.2⟩
      · rw [failed]
        exact .inr (.inr ⟨rfl, drops, refuses⟩)

/-! ### Refusals -/

/-- The entry table, the counts and the contents of memory are what they were. -/
structure Unharmed (before after : PagedPool) : Prop where
  entries : after.entries = before.entries
  active : after.active = before.active
  shared : after.shared = before.shared
  contents : after.contents = before.contents

/-- Neither call has changed anything when it fails. -/
structure RefusesCleanly (paged : PagedPool) (address owner : Nat) : Prop where
  release : ∀ error after, release address owner paged = (.error error, after) → Unharmed paged after
  retainShared : ∀ error after,
    retainShared address owner paged = (.error error, after) → Unharmed paged after

/-- A page is overwritten that stays with its owner. -/
def PoisonsHeld (paged : PagedPool) (address owner : Nat) : Prop :=
  paged.poisonOnFree = true ∧ DropsLast paged.toPool address owner ∧
    BackingRefuses paged.toPool address ∧
    ∃ byte, address ≤ byte ∧ byte < address + pageBytes ∧ paged.contents byte ≠ poisonByte

theorem poison_contents_iff : (paged.poison address).contents = paged.contents ↔
    paged.poisonOnFree = false ∨
      ∀ byte, address ≤ byte → byte < address + pageBytes → paged.contents byte = poisonByte := by
  unfold poison
  split
  · rename_i poisons
    rw [poisons]
    constructor
    · refine fun same => .inr fun byte lower upper => ?_
      have there := congrFun same byte
      dsimp only at there
      rw [if_pos ⟨lower, upper⟩] at there
      exact there.symm
    · rintro (off | poisoned)
      · cases off
      · funext byte
        dsimp only
        split
        · rename_i inside
          exact (poisoned byte inside.1 inside.2).symm
        · rfl
  · rename_i off
    exact iff_of_true rfl (.inl (Bool.not_eq_true _ ▸ off))

theorem retainShared_failed {error : PoolError}
    (failed : retainShared address owner paged = (.error error, after)) : after = paged := by
  have outcome := retainShared_retained paged.toPool address owner
  unfold Yields at outcome
  unfold retainShared at failed
  rw [within_apply] at failed
  obtain ⟨isError, rfl⟩ := Prod.mk.inj failed
  rw [isError] at outcome
  generalize (Pool.retainShared address owner paged.toPool).2 = left at outcome
  cases outcome
  rfl

theorem PoisonsHeld.not_clean (held : PoisonsHeld paged address owner) :
    ¬ RefusesCleanly paged address owner := by
  obtain ⟨poisons, drops, refuses, byte, lower, upper, other⟩ := held
  intro clean
  rcases release_failed paged address owner with ⟨result, -, accepted⟩ | ⟨error, -, keeps⟩ |
    ⟨failed, -, -⟩
  · exact accepted ⟨drops, refuses⟩
  · exact keeps drops
  · rcases poison_contents_iff.mp (clean.release _ _ failed).contents with off | poisoned
    · cases poisons.symm.trans off
    · exact other (poisoned byte lower upper)

/-- A refused call leaves everything alone exactly when it does not overwrite a page that stays
with its owner. -/
theorem refusesCleanly_iff (paged : PagedPool) (address owner : Nat) :
    RefusesCleanly paged address owner ↔ ¬ PoisonsHeld paged address owner := by
  refine ⟨fun clean held => held.not_clean clean, fun harmless =>
    ⟨fun error after failed => ?_, fun error after failed => ?_⟩⟩
  · rcases release_failed paged address owner with ⟨result, succeeds, -⟩ | ⟨_, refused, -⟩ |
      ⟨refused, drops, refuses⟩
    · rw [failed] at succeeds
      cases succeeds
    · obtain ⟨-, rfl⟩ := Prod.mk.inj (refused.symm.trans failed)
      exact ⟨rfl, rfl, rfl, rfl⟩
    · obtain ⟨-, rfl⟩ := Prod.mk.inj (refused.symm.trans failed)
      have same := @poison_toPool paged address
      refine ⟨congrArg Pool.entries same, congrArg Pool.active same, congrArg Pool.shared same,
        poison_contents_iff.mpr ?_⟩
      by_contra neither
      rw [not_or] at neither
      refine harmless ⟨Bool.not_eq_false _ ▸ neither.1, drops, refuses, ?_⟩
      by_contra poisoned
      refine neither.2 fun byte lower upper => ?_
      by_contra other
      exact poisoned ⟨byte, lower, upper, other⟩
  · rw [retainShared_failed failed]
    exact ⟨rfl, rfl, rfl, rfl⟩

/-! ### A full list of free extents -/

/-- The manager has handed out 2049 pages and got every other one back: its list of free extents is
full. -/
def crowdedManager : PhysicalMemoryManager where
  managed := [⟨0x100000, 0x100000 + 2049 * pageBytes⟩]
  freeExtents := (List.range maximumPhysicalExtents).map fun index =>
    ⟨0x100000 + 2 * index * pageBytes, 0x100000 + (2 * index + 1) * pageBytes⟩
  totalPages := 2049

/-- The pool holds the last of these pages for one owner. -/
def crowdedPool : PagedPool where
  manager := some crowdedManager
  pageCount := 1
  entries := Function.update (fun _ => {}) 0
    { state := .exclusive, address := 0x100000 + 2048 * pageBytes, owner := 7, references := 1,
      generation := 1 }
  active := 1
  poisonOnFree := true

/-- The release is refused and the page is overwritten. -/
theorem crowdedPool_not_clean : ¬ RefusesCleanly crowdedPool (0x100000 + 2048 * pageBytes) 7 := by
  have permits : Permits crowdedPool.toPool (0x100000 + 2048 * pageBytes) 7 0 :=
    ⟨by decide +kernel, by decide, fun _ => by decide⟩
  have refuses : crowdedManager.free (0x100000 + 2048 * pageBytes) = .error .metadataExhausted := by
    decide +kernel
  exact PoisonsHeld.not_clean ⟨rfl, ⟨0, permits, by decide⟩, ⟨crowdedManager, _, rfl, refuses⟩,
    0x100000 + 2048 * pageBytes, by decide, by decide, by decide⟩

end PagedPool

end ZigOs.RuntimePagePool
