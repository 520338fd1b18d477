/-
This file models how a process comes to its pages: the page tables of its
address space, the pool its pages come from, and the mapping of a page. A page
is recorded in the context only after the page tables have taken it, and a page
that they do not take goes back.
-/

import ZigOs.Lib.ByteMemory
import ZigOs.RuntimePagePool.Poisoning
import ZigOs.RuntimeUser.AddressSpace

namespace ZigOs.RuntimeUser

open Scan RuntimePagePool Function

abbrev maximumPageTables : Nat := 64
abbrev pageTableSpan : Nat := 2 * 1024 * 1024
abbrev fourGib : Nat := 4 * 1024 * 1024 * 1024

inductive MemoryError where
  | invalidElf | unsupportedAddress | reservedAddress | noRuntimeFrames | mappingLimit
  | mappingFailure
  /-- A part of the file was asked for that the file does not have. -/
  | outsideFile
  deriving DecidableEq, Repr

/-! ### The state -/

structure PageTable where
  used : Bool := false
  virtualBase : Nat := 0
  physicalAddress : Nat := 0
  deriving DecidableEq, Repr

/-- A context with its page tables and the places where its image and its heap end. -/
structure ProcessContext extends Context where
  handle : Nat := 0
  mappingCount : Nat := 0
  pageTables : Nat → PageTable := fun _ => {}
  pageTableCount : Nat := 0
  imageEnd : Nat := 0
  brkBase : Nat := 0
  brkCurrent : Nat := 0
  brkLimit : Nat := mmapFloor - pageBytes

namespace ProcessContext

def findFreeMapping (context : ProcessContext) : Option Nat :=
  firstIndex maximumMappings fun index => !(context.mappings index).used

def findFreePageTable (context : ProcessContext) : Option Nat :=
  firstIndex maximumPageTables fun index => !(context.pageTables index).used

end ProcessContext

/-- An entry of a page table that is present. -/
structure PageEntry where
  physical : Nat
  writable : Bool
  executable : Bool
  deriving DecidableEq, Repr

/-- A context, its page tables by the base of what they span, their entries by the address of the
page, and the pool that the pages are from. -/
structure UserMemory where
  context : ProcessContext := {}
  tables : Nat → Option Nat := fun _ => none
  entries : Nat → Option PageEntry := fun _ => none
  noExecuteEnabled : Bool := true
  pool : PagedPool := {}

abbrev MemoryCall := Call MemoryError UserMemory

/-- The base of what the page table of an address spans. -/
def spanBase (virtual : Nat) : Nat := virtual / pageTableSpan * pageTableSpan

/-- The page directory reaches the user window only. -/
def inDirectory (virtual : Nat) : Bool := userBase ≤ virtual ∧ virtual < userEnd

/-- An address that a page table can refer to. -/
def validFrameAddress (physical : Nat) : Bool :=
  physical % pageBytes = 0 ∧ physical ≠ 0 ∧ physical < fourGib

namespace UserMemory

/-! ### The page tables -/

def userPageTableAddress (memory : UserMemory) (virtual : Nat) : Option Nat :=
  if inDirectory virtual then memory.tables (spanBase virtual) else none

/-- Some page table has an entry for the page, empty or not. -/
def hasPageEntry (memory : UserMemory) (virtual : Nat) : Bool :=
  virtual % pageBytes = 0 ∧ (memory.userPageTableAddress virtual).isSome

def setEntry (memory : UserMemory) (virtual : Nat) (entry : Option PageEntry) : UserMemory :=
  { memory with entries := update memory.entries virtual entry }

/-- Fill an empty entry. What is read back afterwards is what was written. -/
def mapUserPage (memory : UserMemory) (virtual physical : Nat) (writable executable : Bool) :
    Option UserMemory :=
  if memory.hasPageEntry virtual = false then none
  else if memory.entries virtual ≠ none ∨ validFrameAddress physical = false then none
  else if executable = false ∧ memory.noExecuteEnabled = false then none
  else some (memory.setEntry virtual (some { physical, writable, executable }))

def inspectUserPage (memory : UserMemory) (virtual : Nat) : Option PageEntry :=
  if memory.hasPageEntry virtual then
    (memory.entries virtual).map fun entry =>
      { entry with executable := !memory.noExecuteEnabled || entry.executable }
  else none

def translateUserAddress (memory : UserMemory) (address : Nat) (requireWrite requireExecute : Bool) :
    Option Nat :=
  match memory.inspectUserPage (address / pageBytes * pageBytes) with
  | none => none
  | some entry =>
    if requireWrite ∧ entry.writable = false then none
    else if requireExecute ∧ entry.executable = false then none
    else some (entry.physical + address % pageBytes)

/-- A new page table is cleared before the directory points to it. -/
def installUserPageTable (memory : UserMemory) (base table : Nat) : Option UserMemory :=
  if base % pageTableSpan ≠ 0 ∨ validFrameAddress table = false ∨ inDirectory base = false then none
  else if memory.tables base ≠ none then none
  else some {
    memory with
    tables := update memory.tables base (some table)
    entries := fun page => if spanBase page = base then none else memory.entries page }

/-! ### Pages from the pool -/

/-- Store bytes at a physical address. -/
def storePhysical (memory : UserMemory) (address : Nat) (bytes : List UInt8) : UserMemory :=
  { memory with
    pool := { memory.pool with contents := ByteMemory.store memory.pool.contents address bytes } }

def withPool (memory : UserMemory) (pool : Pool) : UserMemory :=
  { memory with pool := { memory.pool with toPool := pool } }

/-- Give a page back; what the pool does not take stays where it is. -/
def releasePage (physical : Nat) (memory : UserMemory) : UserMemory :=
  { memory with pool := (PagedPool.release physical memory.context.handle memory.pool).2 }

def addPageTable (memory : UserMemory) (slot : Nat) (table : PageTable) : UserMemory :=
  { memory with
    context := { memory.context with
      pageTables := update memory.context.pageTables slot table
      pageTableCount := memory.context.pageTableCount + 1 } }

def addMapping (memory : UserMemory) (index : Nat) (mapping : Mapping) : UserMemory :=
  { memory with
    context := { memory.context with
      mappings := update memory.context.mappings index mapping
      mappingCount := memory.context.mappingCount + 1 } }

end UserMemory

/-- A page of the pool, filled with zeros. -/
def allocatePage : MemoryCall Nat where
  run memory :=
    match memory.pool.toPool.allocate memory.context.handle with
    | (some physical, pool) =>
      (.ok physical, (memory.withPool pool).storePhysical physical (List.replicate pageBytes 0))
    | (none, pool) => (.error .noRuntimeFrames, memory.withPool pool)

/-! ### Mapping -/

/-- Install the page table of an address for which there is none yet. -/
def addUserPageTable (virtual : Nat) : MemoryCall Unit := do
  let memory ← Call.state
  Call.failWhen (memory.context.pageTableCount ≥ maximumPageTables) .mappingLimit
  match memory.context.findFreePageTable with
  | none => Call.fail .mappingLimit
  | some slot => do
    let physical ← allocatePage
    let memory ← Call.state
    match memory.installUserPageTable (spanBase virtual) physical with
    | none => do
      Call.change (UserMemory.releasePage physical)
      Call.fail .mappingFailure
    | some installed =>
      Call.change fun _ => installed.addPageTable slot
        { used := true, virtualBase := spanBase virtual, physicalAddress := physical }

def ensurePageTable (virtual : Nat) : MemoryCall Unit := do
  let memory ← Call.state
  if (memory.userPageTableAddress virtual).isSome then return ()
  else addUserPageTable virtual

/-- Enter a mapping into the page tables and into the context; what it refers to is given up when
one of them has no room. -/
def mapPage (giveUp : UserMemory → UserMemory) (mapping : Mapping) : MemoryCall Unit := do
  let memory ← Call.state
  match memory.context.findFreeMapping with
  | none => do
    Call.change giveUp
    Call.fail .mappingLimit
  | some index => do
    let ensured ← Call.attempt (ensurePageTable mapping.virtualAddress)
    match ensured with
    | .error failure => do
      Call.change giveUp
      Call.fail failure
    | .ok () => do
      let memory ← Call.state
      match memory.mapUserPage mapping.virtualAddress mapping.physicalAddress mapping.writable
          mapping.executable with
      | none => do
        Call.change giveUp
        Call.fail .mappingFailure
      | some mapped => Call.change fun _ => mapped.addMapping index mapping

def mapOwned (virtual physical : Nat) (writable executable : Bool) (kind : MappingKind) :
    MemoryCall Unit :=
  mapPage (UserMemory.releasePage physical)
    { used := true, virtualAddress := virtual, physicalAddress := physical, writable, executable, kind }

end ZigOs.RuntimeUser
