/-
This file models how the filesystem finds a node: the bounds on paths and names,
the permission bits, the cache of directory entries with its counted references,
and the walk along a path through mounts and symbolic links. A lookup changes
nothing but the cache.
-/

import ZigOs.RuntimeVfs.State

namespace ZigOs.RuntimeVfs

open Scan Call

/-! ### Names and paths -/

abbrev slash : UInt8 := 47
abbrev dot : Bytes := [46]
abbrev dotDot : Bytes := [46, 46]

def lowerByte (byte : UInt8) : UInt8 := if 65 ≤ byte ∧ byte ≤ 90 then byte + 32 else byte

/-- Equality up to the case of ASCII letters. -/
def eqlIgnoreCase (first second : Bytes) : Bool := first.map lowerByte == second.map lowerByte

/-- The components of a path, each with whether a separator follows it. -/
def pathComponents (path : Bytes) : List (Bytes × Bool) :=
  let parts := path.splitOn slash
  (parts.dropLast.map (fun part => (part, true)) ++ [(parts.getLastD [], false)]).filter
    fun component => !component.1.isEmpty

/-- Every component is scanned before anything is looked up, so that a later overlong one is
not hidden by an earlier failure. -/
def validatePathBounds (path : Bytes) : Except Error Unit :=
  if path.length > maximumPathLength then .error .pathTooLong
  else if (0 : UInt8) ∈ path then .error .invalidPath
  else if ∃ component ∈ pathComponents path, component.1.length > maximumNameLength then
    .error .nameTooLong
  else .ok ()

def validateSingleComponent (name : Bytes) : Except Error Unit :=
  if name = [] ∨ name = dot ∨ name = dotDot ∨ slash ∈ name ∨ (0 : UInt8) ∈ name then
    .error .invalidPath
  else if name.length > maximumNameLength then .error .nameTooLong
  else .ok ()

/-- The path without its trailing separators; a path of separators only keeps one. -/
def trimmedPath (path : Bytes) : Bytes :=
  let trimmed := (path.reverse.dropWhile (· == slash)).reverse
  if trimmed = [] then path.take 1 else trimmed

/-- The part of a path after its last separator. -/
def finalName (path : Bytes) : Bytes := (path.reverse.takeWhile (· != slash)).reverse

/-- The part of a path before its last separator, as a path of its own. -/
def parentPath (path : Bytes) : Bytes :=
  if slash ∈ path then
    let directory := path.take (path.length - (finalName path).length - 1)
    if directory = [] then [slash] else directory
  else dot

/-! ### Permission bits -/

abbrev permissionModeMask : BitVec 16 := 0o0777
abbrev stickyModeBit : BitVec 16 := 0o1000
abbrev setgidModeBit : BitVec 16 := 0o2000
abbrev setuidModeBit : BitVec 16 := 0o4000
abbrev specialModeMask : BitVec 16 := 0o7000
abbrev storedModeMask : BitVec 16 := 0o7777

def validStoredMode (mode : BitVec 16) : Bool := mode &&& ~~~storedModeMask == 0

def applyCreationUmask (mode mask : BitVec 16) : BitVec 16 :=
  (mode &&& specialModeMask) ||| ((mode &&& permissionModeMask) &&& (~~~mask &&& permissionModeMask))

/-- The three permission bits that apply to these credentials. -/
def permissionBits (node : Node) (credentials : Ownership) : BitVec 16 :=
  if credentials.uid = node.uid then (node.mode >>> 6) &&& 7
  else if credentials.gid = node.gid then (node.mode >>> 3) &&& 7
  else node.mode &&& 7

/-- Drop an unreferenced entry; a referenced one turns stale and is dropped by its last
reference. -/
def DentryCacheEntry.invalidate (entry : DentryCacheEntry) : DentryCacheEntry :=
  if entry.used = false then entry
  else if entry.references = 0 then { generation := entry.generation }
  else { entry with stale := true }

namespace Vfs

def accessAllowedNode (vfs : Vfs) (node : Nat) (credentials : Ownership) (requested : Access) :
    Except Error Bool :=
  if vfs.nodeLinked node = false then .error .notFound
  else if credentials.uid = 0 then .ok true
  else
    let bits := permissionBits (vfs.nodes node) credentials
    if requested.read && bits &&& 4 == 0 then .ok false
    else if requested.write && bits &&& 2 == 0 then .ok false
    else if requested.execute && bits &&& 1 == 0 then .ok false
    else .ok true

def requireAccessNode (vfs : Vfs) (node : Nat) (credentials : Ownership) (requested : Access) :
    Except Error Unit :=
  match vfs.accessAllowedNode node credentials requested with
  | .ok true => .ok ()
  | .ok false => .error .permissionDenied
  | .error failure => .error failure

def requireStickyRemoval (vfs : Vfs) (parent victim : Nat) (credentials : Ownership) :
    Except Error Unit :=
  let directory := vfs.nodes parent
  if vfs.nodeUsed parent = false ∨ vfs.nodeUsed victim = false then .error .notFound
  else if directory.kind ≠ .directory then .error .notDirectory
  else if directory.mode &&& stickyModeBit = 0 ∨ credentials.uid = 0 ∨
      credentials.uid = directory.uid ∨ credentials.uid = (vfs.nodes victim).uid then .ok ()
  else .error .permissionDenied

def requireMutableFile (vfs : Vfs) (node : Nat) : Except Error Unit :=
  if vfs.nodeUsed node = false then .error .notFound
  else if (vfs.nodes node).kind = .directory then .error .isDirectory
  else if (vfs.nodes node).kind = .pseudo ∨ (vfs.nodes node).kind = .symlink ∨
      (vfs.nodes node).readonly ∨ vfs.mountReadonly (vfs.nodes node).mountId then .error .readOnly
  else .ok ()

def requireWritableFile (vfs : Vfs) (node : Nat) : Except Error Unit :=
  match vfs.requireMutableFile node with
  | .error failure => .error failure
  | .ok _ => if (vfs.nodes node).mode &&& 0o222 = 0 then .error .permissionDenied else .ok ()

def validateDirectory (vfs : Vfs) (node : Nat) : Except Error Nat :=
  if vfs.nodeLinked node = false then .error .notFound
  else if (vfs.nodes (vfs.followMount node)).kind ≠ .directory then .error .notDirectory
  else .ok (vfs.followMount node)

/-! ### The directory-entry cache -/

def dentryNamed (vfs : Vfs) (parent : Nat) (name : Bytes) (index : Nat) : Bool :=
  (vfs.dentries index).used && (vfs.dentries index).parent == parent &&
    eqlIgnoreCase (vfs.dentries index).name name

def findDentryUncached (vfs : Vfs) (parent : Nat) (name : Bytes) : Option Nat :=
  firstIndex maximumDentries (vfs.dentryNamed parent name)

def cacheEntryValid (vfs : Vfs) (entry : DentryCacheEntry) : Bool :=
  let dentry := vfs.dentries entry.dentry
  decide (entry.dentry < maximumDentries) && dentry.used &&
    dentry.generation == entry.dentryGeneration && dentry.parent == entry.parent &&
    eqlIgnoreCase dentry.name entry.name

/-- An unused slot, or else the unreferenced one that was used least recently. -/
def cacheInsertionSlot (vfs : Vfs) : Option Nat :=
  match firstIndex maximumDentryCacheEntries fun index => !(vfs.dentryCache index).used with
  | some index => some index
  | none => leastIndex maximumDentryCacheEntries
      (fun index => (vfs.dentryCache index).references == 0)
      (fun index => (vfs.dentryCache index).lastUsed) (2 ^ 64 - 1)

def invalidateCacheSlot (vfs : Vfs) (index : Nat) : Vfs :=
  vfs.modifyCacheSlot index DentryCacheEntry.invalidate

def invalidateCachedDentry (vfs : Vfs) (dentry : Nat) : Vfs :=
  { vfs with
    dentryCache := fun index =>
      if index < maximumDentryCacheEntries ∧ (vfs.dentryCache index).dentry = dentry
      then (vfs.dentryCache index).invalidate else vfs.dentryCache index }

/-- Look for a cached entry in the given slots, dropping the invalid ones on the way. -/
def acquireCached (parent : Nat) (name : Bytes) : List Nat → Vfs → Option DentryReference × Vfs
  | [], vfs => (none, vfs)
  | index :: rest, vfs =>
    let entry := vfs.dentryCache index
    if entry.used = false ∨ entry.stale ∨ entry.parent ≠ parent ∨
        eqlIgnoreCase entry.name name = false then acquireCached parent name rest vfs
    else if vfs.cacheEntryValid entry = false then
      acquireCached parent name rest (vfs.invalidateCacheSlot index)
    else if entry.references = 0xFFFF then (some { dentry := entry.dentry }, vfs)
    else
      (some { cacheEntry := index, cacheGeneration := entry.generation, dentry := entry.dentry },
        vfs.modifyCacheSlot index fun entry =>
          { entry with references := entry.references + 1, lastUsed := vfs.dentryCacheClock })

/-- Remember a found entry, with one reference to it. -/
def insertCached (parent : Nat) (name : Bytes) (dentry : Nat) (vfs : Vfs) : DentryReference × Vfs :=
  match vfs.cacheInsertionSlot with
  | none => ({ dentry := dentry }, vfs)
  | some index =>
    let generation := nextGeneration (vfs.dentryCache index).generation
    ({ cacheEntry := index, cacheGeneration := generation, dentry := dentry },
      vfs.modifyCacheSlot index fun _ =>
        { used := true
          generation := generation
          parent := parent
          dentry := dentry
          dentryGeneration := (vfs.dentries dentry).generation
          references := 1
          lastUsed := vfs.dentryCacheClock
          name := name })

def acquireDentry (parent : Nat) (name : Bytes) (vfs : Vfs) : Option DentryReference × Vfs :=
  let ticked := { vfs with dentryCacheClock := nextNonzero 64 vfs.dentryCacheClock }
  match acquireCached parent name (List.range maximumDentryCacheEntries) ticked with
  | (some reference, found) => (some reference, found)
  | (none, missed) =>
    match missed.findDentryUncached parent name with
    | none => (none, missed)
    | some dentry =>
      let (reference, inserted) := insertCached parent name dentry missed
      (some reference, inserted)

def releaseDentryReference (reference : DentryReference) (vfs : Vfs) : Vfs :=
  let entry := vfs.dentryCache reference.cacheEntry
  if reference.cacheEntry = invalidCacheEntry ∨
      reference.cacheEntry ≥ maximumDentryCacheEntries then vfs
  else if entry.used = false ∨ entry.generation ≠ reference.cacheGeneration ∨
      entry.references = 0 then vfs
  else vfs.modifyCacheSlot reference.cacheEntry fun entry =>
    if entry.stale ∧ entry.references = 1 then { generation := entry.generation }
    else { entry with references := entry.references - 1 }

/-- Find an entry and give its reference back at once. -/
def findDentry (parent : Nat) (name : Bytes) : VfsCall (Option Nat) where
  run vfs :=
    match acquireDentry parent name vfs with
    | (none, after) => (.ok none, after)
    | (some reference, after) => (.ok (some reference.dentry), releaseDentryReference reference after)

/-! ### Walking a path -/

/-- Go through an entry: along the link it names, or over the mount that covers it. -/
def enterDentry (jump : Nat → Bytes → VfsCall Nat) (follow : Bool) (dentry : Nat) : VfsCall Nat := do
  let vfs ← state
  let entry := vfs.dentries dentry
  let child := vfs.nodes entry.node
  if child.kind = .symlink ∧ follow then jump entry.parent (child.symlinkData.take child.size)
  else return vfs.followMount entry.node

/-- Hold a reference to the entry while it is gone through, and give it back also when that
fails. -/
def stepInto (jump : Nat → Bytes → VfsCall Nat) (follow : Bool) (current : Nat) (name : Bytes) :
    VfsCall Nat where
  run vfs :=
    match acquireDentry current name vfs with
    | (none, after) => (.error .notFound, after)
    | (some reference, after) =>
      (enterDentry jump follow reference.dentry).closing (releaseDentryReference reference) after

def walk (jump : Nat → Bytes → VfsCall Nat) (followFinal : Bool) (credentials : Ownership) :
    Nat → List (Bytes × Bool) → VfsCall Nat
  | current, [] => Call.ok current
  | current, (name, hasSuffix) :: rest => do
    let vfs ← state
    failWhen ((vfs.nodes current).kind ≠ .directory) .notDirectory
    lift (vfs.requireAccessNode current credentials { execute := true })
    if name = dot then walk jump followFinal credentials current rest
    else if name = dotDot then do
      let parent ← lift (vfs.directoryParent current)
      walk jump followFinal credentials parent rest
    else do
      let next ← stepInto jump (followFinal || hasSuffix) current name
      walk jump followFinal credentials next rest

def resolveWith (jump : Nat → Bytes → VfsCall Nat) (followFinal : Bool) (credentials : Ownership)
    (cwd : Nat) (path : Bytes) : VfsCall Nat := do
  lift (validatePathBounds path)
  let vfs ← state
  if path = [] then do
    let directory ← lift (vfs.validateDirectory cwd)
    lift (vfs.requireAccessNode directory credentials { execute := true })
    return directory
  else do
    let start ← lift (if path.head? = some slash then .ok 0 else vfs.validateDirectory cwd)
    walk jump followFinal credentials start (pathComponents path)

/-- What following a symbolic link does while so many more may be followed. -/
def resolveLink (credentials : Ownership) : Nat → Nat → Bytes → VfsCall Nat
  | 0 => fun _ _ => fail .cycle
  | links + 1 => resolveWith (resolveLink credentials links) true credentials

def resolveInternalAs (cwd : Nat) (path : Bytes) (followFinal : Bool) (credentials : Ownership) :
    VfsCall Nat :=
  resolveWith (resolveLink credentials maximumSymlinkDepth) followFinal credentials cwd path

def resolveAs (cwd : Nat) (path : Bytes) (credentials : Ownership) : VfsCall Nat :=
  resolveInternalAs cwd path true credentials

def resolve (cwd : Nat) (path : Bytes) : VfsCall Nat := resolveAs cwd path {}

def resolveNoFollowAs (cwd : Nat) (path : Bytes) (credentials : Ownership) : VfsCall Nat :=
  resolveInternalAs cwd path false credentials

def resolveNoFollow (cwd : Nat) (path : Bytes) : VfsCall Nat := resolveNoFollowAs cwd path {}

def resolveDirectoryAs (cwd : Nat) (path : Bytes) (credentials : Ownership) : VfsCall Nat := do
  let node ← resolveAs cwd path credentials
  let vfs ← state
  failWhen ((vfs.nodes node).kind ≠ .directory) .notDirectory
  lift (vfs.requireAccessNode node credentials { execute := true })
  return node

/-- Split off the last name of a path and find the directory it is looked up in. -/
def parentAndNameAs (cwd : Nat) (path : Bytes) (credentials : Ownership) : VfsCall (Nat × Bytes) := do
  lift (validatePathBounds path)
  failWhen (path = []) .invalidPath
  let name := finalName (trimmedPath path)
  failWhen (name = [] ∨ name = dot ∨ name = dotDot) .invalidPath
  let parent ← resolveAs cwd (parentPath (trimmedPath path)) credentials
  let vfs ← state
  lift (vfs.requireAccessNode parent credentials { write := true, execute := true })
  return (parent, name)

def entryForPathAs (cwd : Nat) (path : Bytes) (credentials : Ownership) : VfsCall Nat := do
  let (parent, name) ← parentAndNameAs cwd path credentials
  let found ← findDentry parent name
  match found with
  | some entry => return entry
  | none => fail .notFound

end Vfs

end ZigOs.RuntimeVfs
