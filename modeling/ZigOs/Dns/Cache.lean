/-
This file models the resolver's cache of four entries. An entry is for a name and holds
an address or that the name does not exist, until it expires. The clock counts stores and
hits, and the entry it touched longest ago is the one that makes room.
-/

import ZigOs.Dns.Name

namespace ZigOs.Dns

abbrev cacheCapacity : Nat := 4

/-- An addition that stops at the largest value of its width. -/
def saturatingAdd (width first second : Nat) : Nat := min (first + second) (2 ^ width - 1)

structure CachedA where
  address : Address
  ttlRemaining : Nat
  deriving DecidableEq, Repr

inductive CachedOutcome where
  | answer (cached : CachedA)
  | nameError (ttlRemaining : Nat)
  deriving DecidableEq, Repr

/-- An entry of the cache; the default is the zeroed one. -/
structure CacheEntry where
  active : Bool := false
  negative : Bool := false
  name : Bytes := []
  address : Address := {}
  expiresAt : Nat := 0
  lastUsed : Nat := 0
  deriving DecidableEq, Repr

structure Cache where
  entries : List CacheEntry := List.replicate cacheCapacity {}
  clock : Nat := 0
  deriving DecidableEq, Repr

/-- The clock after a store or a hit. -/
def tick (clock : Nat) : Nat := saturatingAdd 64 clock 1

/-- An entry found expired is zeroed. -/
def discardExpired (now : Nat) (entry : CacheEntry) : CacheEntry :=
  if entry.active && entry.expiresAt ≤ now then {} else entry

/-! ### Lookups -/

/-- The first entry of the name that the lookup accepts, after the expired ones on the way are
zeroed. Entries behind it are left as they are. -/
def scanLookup (accepts : CacheEntry → Bool) (now used : Nat) :
    List CacheEntry → Option CacheEntry × List CacheEntry
  | [] => (none, [])
  | entry :: rest =>
    if (discardExpired now entry).active && accepts entry then
      (some entry, { entry with lastUsed := used } :: rest)
    else
      let (found, after) := scanLookup accepts now used rest
      (found, discardExpired now entry :: after)

/-- The time an entry has left, as a 32-bit value. -/
def remaining (now : Nat) (entry : CacheEntry) : Nat := min (entry.expiresAt - now) (2 ^ 32 - 1)

/-- A lookup of the entries it accepts; only a hit moves the clock. -/
def Cache.lookup (cache : Cache) (accepts : CacheEntry → Bool) (now : Nat) :
    Option CacheEntry × Cache :=
  let (found, entries) := scanLookup accepts now (tick cache.clock) cache.entries
  (found, { entries, clock := if found.isSome then tick cache.clock else cache.clock })

def lookupCachedOutcome (cache : Cache) (name : Bytes) (now : Nat) : Option CachedOutcome × Cache :=
  if encodedNameLength name = none then (none, cache)
  else
    let (found, after) := cache.lookup (fun entry => equalName entry.name name) now
    (found.map fun entry =>
      if entry.negative then .nameError (remaining now entry)
      else .answer { address := entry.address, ttlRemaining := remaining now entry }, after)

def lookupCachedA (cache : Cache) (name : Bytes) (now : Nat) : Option CachedA × Cache :=
  if encodedNameLength name = none then (none, cache)
  else
    let (found, after) :=
      cache.lookup (fun entry => equalName entry.name name && !entry.negative) now
    (found.map fun entry =>
      { address := entry.address, ttlRemaining := remaining now entry }, after)

/-! ### Stores -/

/-- What a store knows of the entries it passed. -/
structure Survey where
  freeIndex : Option Nat := none
  oldestIndex : Option Nat := none
  oldestUse : Nat := 2 ^ 64 - 1

def Survey.pass (survey : Survey) (index : Nat) (entry : CacheEntry) : Survey :=
  if !entry.active then { survey with freeIndex := survey.freeIndex.or (some index) }
  else if entry.lastUsed < survey.oldestUse then
    { survey with oldestIndex := some index, oldestUse := entry.lastUsed }
  else survey

/-- A pass over the entries: it ends at the entry of the name, which is refreshed, or it has seen
them all. -/
def scanStore (name : Bytes) (now : Nat) (refresh : CacheEntry → CacheEntry) :
    List CacheEntry → Nat → Survey → Option Survey × List CacheEntry
  | [], _, survey => (some survey, [])
  | entry :: rest, index, survey =>
    let entry := discardExpired now entry
    if entry.active && equalName entry.name name then (none, refresh entry :: rest)
    else
      let (result, after) := scanStore name now refresh rest (index + 1) (survey.pass index entry)
      (result, entry :: after)

/-- Both stores: they differ in whether the entry is negative and in the address it holds. -/
def storeCached (negative : Bool) (address : Address) (cache : Cache) (name : Bytes) (ttl now : Nat) :
    Bool × Cache :=
  if encodedNameLength name = none then (false, cache)
  else if ttl = 0 then (false, cache)
  else
    let used := tick cache.clock
    let expiresAt := saturatingAdd 64 now ttl
    match scanStore name now (fun entry => { entry with negative, address, expiresAt, lastUsed := used })
        cache.entries 0 {} with
    | (none, entries) => (true, { entries, clock := used })
    | (some survey, entries) =>
      match survey.freeIndex.or survey.oldestIndex with
      | none => (false, { cache with entries })
      | some index =>
        (true,
          { entries := entries.set index
              { active := true, negative, name, address, expiresAt, lastUsed := used }
            clock := used })

def storeCachedA (cache : Cache) (name : Bytes) (address : Address) (ttl now : Nat) : Bool × Cache :=
  storeCached false address cache name ttl now

def storeCachedNameError (cache : Cache) (name : Bytes) (ttl now : Nat) : Bool × Cache :=
  storeCached true {} cache name ttl now

end ZigOs.Dns
