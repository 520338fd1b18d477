/-
This file models the page pool: a table of the pages that processes hold, each
held exclusively by one owner or shared by reference count. The pages come from
the physical memory manager, or lie one after the other above a fixed base. An
entry remembers the address of its last page after the page is freed.
-/

import ZigOs.Lib.Call
import ZigOs.Lib.Scan
import ZigOs.Error
import ZigOs.RuntimePagePool.Manager

namespace ZigOs.RuntimePagePool

open Scan Call

abbrev maximumPages : Nat := 4096

/-- The largest reference count. -/
abbrev maximumReferences : Nat := 2 ^ 32 - 1

inductive PoolError where
  | invalidConfiguration | invalidAddress | doubleFree | ownerMismatch | referenceOverflow
  | backingAllocatorFailure
  deriving DecidableEq, Repr

inductive PageState where
  | free | exclusive | shared
  deriving DecidableEq, Repr

inductive ReleaseResult where
  | retained | freed
  deriving DecidableEq, Repr

structure Entry where
  state : PageState := .free
  address : Nat := 0
  owner : Nat := 0
  references : Nat := 0
  generation : Nat := 0
  deriving DecidableEq, Repr

def Entry.live (entry : Entry) : Bool := entry.state != .free

/-- The manager is the one the pool points to; other users allocate from it too. -/
structure Pool where
  base : Nat := 0
  pageCount : Nat := 0
  manager : Option PhysicalMemoryManager := none
  limitExclusive : Nat := 2 ^ 64 - 1
  entries : Nat → Entry := fun _ => {}
  active : Nat := 0
  shared : Nat := 0

abbrev PoolCall := Call PoolError Pool

namespace Pool

/-- A pool of pages above a fixed base. -/
def fixedBase (base pageCount : Nat) : Except PoolError Pool :=
  if base = 0 ∨ base % pageBytes ≠ 0 ∨ pageCount = 0 ∨ pageCount > maximumPages then
    .error .invalidConfiguration
  else if pageCount > (2 ^ 64 - 1 - base) / pageBytes then .error .invalidConfiguration
  else .ok { base, pageCount }

def initializeManager (manager : PhysicalMemoryManager) (pageCount limitExclusive : Nat) :
    Except PoolError Pool :=
  if pageCount = 0 ∨ pageCount > maximumPages ∨ limitExclusive < pageBytes then
    .error .invalidConfiguration
  else .ok { manager := some manager, pageCount, limitExclusive }

/-- Replace one entry. -/
def set (pool : Pool) (index : Nat) (entry : Entry) : Pool :=
  { pool with entries := Function.update pool.entries index entry }

/-- Fill an entry for a new page. -/
def claim (pool : Pool) (index address owner : Nat) : Pool :=
  { pool.set index {
      state := .exclusive
      address
      owner
      references := 1
      generation := nextNonzero 32 (pool.entries index).generation } with
    active := pool.active + 1 }

/-- Erase the memories that other free entries have of the address. -/
def forgetOthers (pool : Pool) (index address : Nat) : Pool :=
  { pool with
    entries := fun candidate =>
      if candidate < pool.pageCount ∧ candidate ≠ index ∧
          (pool.entries candidate).state = .free ∧ (pool.entries candidate).address = address
      then { pool.entries candidate with address := 0 } else pool.entries candidate }

def allocate (pool : Pool) (owner : Nat) : Option Nat × Pool :=
  if owner = 0 then (none, pool)
  else match firstIndex pool.pageCount fun index => (pool.entries index).state == .free with
    | none => (none, pool)
    | some available =>
      match pool.manager with
      | none =>
        (some (pool.base + available * pageBytes),
          pool.claim available (pool.base + available * pageBytes) owner)
      | some manager =>
        match manager.allocateBelow pool.limitExclusive with
        | none => (none, pool)
        | some (physical, manager) =>
          let drained := { pool with manager := some manager }
          if (firstIndex pool.pageCount fun index =>
              (pool.entries index).live && (pool.entries index).address == physical).isSome
          then (none, drained)
          else
            -- The entry that remembers this address is preferred, for its generation.
            let index := (firstIndex pool.pageCount fun index =>
              (pool.entries index).state == .free &&
                (pool.entries index).address == physical).getD available
            (some physical, (drained.forgetOthers index physical).claim index physical owner)

/-- The entry of an address: a live one, or the first one that remembers it. -/
def resolve (pool : Pool) (address : Nat) : Except PoolError Nat :=
  if pool.manager.isSome then
    match firstIndex pool.pageCount fun index =>
        (pool.entries index).address == address && (pool.entries index).live with
    | some index => .ok index
    | none =>
      match firstIndex pool.pageCount fun index => (pool.entries index).address == address with
      | some index => .ok index
      | none => .error .invalidAddress
  else if address < pool.base then .error .invalidAddress
  else if (address - pool.base) % pageBytes ≠ 0 then .error .invalidAddress
  else if (address - pool.base) / pageBytes ≥ pool.pageCount then .error .invalidAddress
  else .ok ((address - pool.base) / pageBytes)

def retainShared (address owner : Nat) : PoolCall Unit := do
  let pool ← Call.state
  let index ← lift (pool.resolve address)
  let entry := pool.entries index
  failWhen (entry.state = .free) .doubleFree
  failWhen (entry.state = .exclusive ∧ entry.owner ≠ owner) .ownerMismatch
  failWhen (entry.references = maximumReferences) .referenceOverflow
  change fun pool =>
    if entry.state = .exclusive then
      { pool.set index { entry with state := .shared, owner := 0, references := entry.references + 1 }
        with shared := pool.shared + 1 }
    else pool.set index { entry with references := entry.references + 1 }

/-- Give the page back to the manager, if there is one. -/
def returnPage (pool : Pool) (address : Nat) : Except PoolError Pool :=
  match pool.manager with
  | none => .ok pool
  | some manager =>
    match manager.free address with
    | .ok manager => .ok { pool with manager := some manager }
    | .error _ => .error .backingAllocatorFailure

def release (address owner : Nat) : PoolCall ReleaseResult := do
  let pool ← Call.state
  let index ← lift (pool.resolve address)
  let entry := pool.entries index
  failWhen (entry.state = .free) .doubleFree
  failWhen (entry.state = .exclusive ∧ entry.owner ≠ owner) .ownerMismatch
  if entry.references > 1 then do
    change fun pool => pool.set index { entry with references := entry.references - 1 }
    return .retained
  else do
    let returned ← lift (pool.returnPage address)
    change fun _ =>
      let freed := returned.set index { entry with state := .free, owner := 0, references := 0 }
      let single := if pool.manager.isSome then freed.forgetOthers index address else freed
      { single with
        shared := if entry.state = .shared then pool.shared - 1 else pool.shared
        active := pool.active - 1 }
    return .freed

end Pool

end ZigOs.RuntimePagePool
