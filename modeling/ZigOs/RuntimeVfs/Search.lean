/-
This file shows that path search permission is enforced on every step. The
calls that take credentials are written a second time with a history: each
lookup of a component, and each name about to be looked up in a parent, is
written down with the directory and with the filesystem as it then stood.
Without the history they are the calls of the filesystem; with it, every
directory written down lets the credentials search it, and every name that
changed was and is in a directory they may write.
-/

import ZigOs.Lib.History
import ZigOs.RuntimeVfs.Frame

namespace ZigOs.RuntimeVfs

open Call

/-! ### Permission classes -/

/-- The classes of users that a mode tells apart. -/
inductive PermissionClass where
  | owner | group | other
  deriving DecidableEq, Repr

/-- The one class these credentials belong to: a member of the group that is also the owner is
the owner. -/
def permissionClass (node : Node) (credentials : Ownership) : PermissionClass :=
  if credentials.uid = node.uid then .owner
  else if credentials.gid = node.gid then .group else .other

/-- The place of the class's bits in a mode: execute, write and read from here on. -/
def PermissionClass.lowestBit : PermissionClass → Nat
  | .owner => 6
  | .group => 3
  | .other => 0

namespace Vfs

/-- The class of the credentials may look names up in the directory. -/
def Searchable (vfs : Vfs) (credentials : Ownership) (directory : Nat) : Prop :=
  (vfs.nodes directory).mode.getLsbD
    (permissionClass (vfs.nodes directory) credentials).lowestBit = true

/-- The class of the credentials may change the names in the directory. -/
def Writable (vfs : Vfs) (credentials : Ownership) (directory : Nat) : Prop :=
  (vfs.nodes directory).mode.getLsbD
    ((permissionClass (vfs.nodes directory) credentials).lowestBit + 1) = true

/-- The three bits the code compares are the bits of the one class. -/
theorem permissionBits_getLsbD (node : Node) (credentials : Ownership) {bit : Nat} (low : bit < 3) :
    (permissionBits node credentials).getLsbD bit =
      node.mode.getLsbD ((permissionClass node credentials).lowestBit + bit) := by
  have mask : (7 : BitVec 16).getLsbD bit = true := by
    interval_cases bit <;> rfl
  unfold permissionBits permissionClass
  by_cases owns : credentials.uid = node.uid
  · rw [if_pos owns, if_pos owns, BitVec.getLsbD_and, mask, Bool.and_true,
      BitVec.getLsbD_ushiftRight]
    rfl
  · rw [if_neg owns, if_neg owns]
    by_cases shares : credentials.gid = node.gid
    · rw [if_pos shares, if_pos shares, BitVec.getLsbD_and, mask, Bool.and_true,
        BitVec.getLsbD_ushiftRight]
      rfl
    · rw [if_neg shares, if_neg shares, BitVec.getLsbD_and, mask, Bool.and_true]
      simp only [PermissionClass.lowestBit, Nat.zero_add]

theorem getLsbD_of_masked {bits : BitVec 16} (bit : Nat)
    (nonzero : (bits &&& BitVec.twoPow 16 bit == 0) = false) : bits.getLsbD bit = true := by
  by_contra unset
  rw [BitVec.and_twoPow, if_neg unset] at nonzero
  cases nonzero

/-- Credentials other than root's pass a check only with the bits of their own class. -/
theorem requireAccessNode_ok {vfs : Vfs} {node : Nat} {credentials : Ownership} {requested : Access}
    (nonroot : credentials.uid ≠ 0)
    (passed : vfs.requireAccessNode node credentials requested = .ok ()) :
    (requested.execute = true → vfs.Searchable credentials node) ∧
      (requested.write = true → vfs.Writable credentials node) := by
  have allowed : vfs.accessAllowedNode node credentials requested = .ok true := by
    unfold requireAccessNode at passed
    split at passed
    · assumption
    · cases passed
    · cases passed
  simp only [accessAllowedNode, if_neg nonroot] at allowed
  split at allowed
  · cases allowed
  · split at allowed
    · cases allowed
    · split at allowed
      · cases allowed
      · rename_i writes
        split at allowed
        · cases allowed
        · rename_i executes
          constructor
          · intro wanted
            rw [wanted, Bool.true_and, Bool.not_eq_true] at executes
            have bit := getLsbD_of_masked 0 executes
            rwa [permissionBits_getLsbD _ _ (by decide)] at bit
          · intro wanted
            rw [wanted, Bool.true_and, Bool.not_eq_true] at writes
            have bit := getLsbD_of_masked 1 writes
            rwa [permissionBits_getLsbD _ _ (by decide)] at bit

/-! ### The walk with its lookups written down -/

/-- A lookup of a component: the directory it is made in, and the filesystem as it stands. -/
structure Lookup where
  vfs : Vfs
  directory : Nat

/-- The class of the credentials may search the directory at the time of the lookup. -/
def Lookup.Permitted (credentials : Ownership) (lookup : Lookup) : Prop :=
  lookup.vfs.Searchable credentials lookup.directory

abbrev SearchCall := Call Error (Recorded Vfs Lookup)

def searching (directory : Nat) : SearchCall Unit := record fun vfs => { vfs, directory }

def enterDentryRecorded (jump : Nat → Bytes → SearchCall Nat) (follow : Bool) (dentry : Nat) :
    SearchCall Nat := do
  let vfs ← quietly Call.state
  let entry := vfs.dentries dentry
  let child := vfs.nodes entry.node
  if child.kind = .symlink ∧ follow then jump entry.parent (child.symlinkData.take child.size)
  else return vfs.followMount entry.node

def stepIntoRecorded (jump : Nat → Bytes → SearchCall Nat) (follow : Bool) (current : Nat)
    (name : Bytes) : SearchCall Nat where
  run whole :=
    match acquireDentry current name whole.state with
    | (none, after) => (.error .notFound, { whole with state := after })
    | (some reference, after) =>
      (enterDentryRecorded jump follow reference.dentry).closing
        (fun last => { last with state := releaseDentryReference reference last.state })
        { whole with state := after }

def walkRecorded (jump : Nat → Bytes → SearchCall Nat) (followFinal : Bool)
    (credentials : Ownership) : Nat → List (Bytes × Bool) → SearchCall Nat
  | current, [] => quietly (Call.ok current)
  | current, (name, hasSuffix) :: rest => do
    let vfs ← quietly Call.state
    quietly (failWhen ((vfs.nodes current).kind ≠ .directory) .notDirectory)
    quietly (lift (vfs.requireAccessNode current credentials { execute := true }))
    searching current
    if name = dot then walkRecorded jump followFinal credentials current rest
    else if name = dotDot then do
      let parent ← quietly (lift (vfs.directoryParent current))
      walkRecorded jump followFinal credentials parent rest
    else do
      let next ← stepIntoRecorded jump (followFinal || hasSuffix) current name
      walkRecorded jump followFinal credentials next rest

def resolveWithRecorded (jump : Nat → Bytes → SearchCall Nat) (followFinal : Bool)
    (credentials : Ownership) (cwd : Nat) (path : Bytes) : SearchCall Nat := do
  quietly (lift (validatePathBounds path))
  let vfs ← quietly Call.state
  if path = [] then quietly do
    let directory ← lift (vfs.validateDirectory cwd)
    lift (vfs.requireAccessNode directory credentials { execute := true })
    return directory
  else do
    let start ← quietly
      (lift (if path.head? = some slash then .ok 0 else vfs.validateDirectory cwd))
    walkRecorded jump followFinal credentials start (pathComponents path)

def resolveLinkRecorded (credentials : Ownership) : Nat → Nat → Bytes → SearchCall Nat
  | 0 => fun _ _ => quietly (fail .cycle)
  | links + 1 => resolveWithRecorded (resolveLinkRecorded credentials links) true credentials

def resolveRecorded (cwd : Nat) (path : Bytes) (followFinal : Bool) (credentials : Ownership) :
    SearchCall Nat :=
  resolveWithRecorded (resolveLinkRecorded credentials maximumSymlinkDepth) followFinal credentials
    cwd path

/-- The parent is written down when it is found: whoever asked for it looks the last name up
there next. -/
def parentAndNameRecorded (cwd : Nat) (path : Bytes) (credentials : Ownership) :
    SearchCall (Nat × Bytes) := do
  quietly (lift (validatePathBounds path))
  quietly (failWhen (path = []) .invalidPath)
  let name := finalName (trimmedPath path)
  quietly (failWhen (name = [] ∨ name = dot ∨ name = dotDot) .invalidPath)
  let parent ← resolveRecorded cwd (parentPath (trimmedPath path)) true credentials
  let vfs ← quietly Call.state
  quietly (lift (vfs.requireAccessNode parent credentials { write := true, execute := true }))
  searching parent
  return (parent, name)

def entryForPathRecorded (cwd : Nat) (path : Bytes) (credentials : Ownership) : SearchCall Nat := do
  let (parent, name) ← parentAndNameRecorded cwd path credentials
  let found ← quietly (findDentry parent name)
  match found with
  | some entry => return entry
  | none => quietly (fail .notFound)

/-! ### It is the same walk -/

section Erases

variable {jump : Nat → Bytes → VfsCall Nat} {jumpRecorded : Nat → Bytes → SearchCall Nat}
  (jumps : ∀ node path, Erases (jumpRecorded node path) (jump node path))
include jumps

theorem stepInto_erases (follow : Bool) (current : Nat) (name : Bytes) :
    Erases (stepIntoRecorded jumpRecorded follow current name) (stepInto jump follow current name) := by
  intro whole
  have entered (dentry : Nat) : Erases (enterDentryRecorded jumpRecorded follow dentry)
      (enterDentry jump follow dentry) :=
    erases_bind (erases_quietly _) fun _ => erases_ite (jumps _ _) (erases_pure _)
  simp only [stepIntoRecorded, stepInto]
  rcases acquireDentry current name whole.state with ⟨_ | reference, after⟩
  · exact ⟨rfl, rfl⟩
  · obtain ⟨sameResult, sameState⟩ := entered reference.dentry { whole with state := after }
    exact ⟨sameResult, congrArg (releaseDentryReference reference) sameState⟩

theorem walk_erases (followFinal : Bool) (credentials : Ownership) (current : Nat)
    (components : List (Bytes × Bool)) :
    Erases (walkRecorded jumpRecorded followFinal credentials current components)
      (walk jump followFinal credentials current components) := by
  induction components generalizing current with
  | nil => exact erases_quietly _
  | cons component rest hypothesis =>
    obtain ⟨name, hasSuffix⟩ := component
    refine erases_bind (erases_quietly _) fun vfs => erases_bind (erases_quietly _) fun _ =>
      erases_bind (erases_quietly _) fun _ => erases_record ?_
    refine erases_ite (hypothesis _) (erases_ite ?_ ?_)
    · exact erases_bind (erases_quietly _) fun parent => hypothesis parent
    · exact erases_bind (stepInto_erases jumps _ _ _) fun next => hypothesis next

theorem resolveWith_erases (followFinal : Bool) (credentials : Ownership) (cwd : Nat)
    (path : Bytes) :
    Erases (resolveWithRecorded jumpRecorded followFinal credentials cwd path)
      (resolveWith jump followFinal credentials cwd path) :=
  erases_bind (erases_quietly _) fun _ => erases_bind (erases_quietly _) fun _ =>
    erases_ite (erases_quietly _) (erases_bind (erases_quietly _) fun start =>
      walk_erases jumps followFinal credentials start _)

end Erases

theorem resolveLink_erases (credentials : Ownership) (links node : Nat) (path : Bytes) :
    Erases (resolveLinkRecorded credentials links node path)
      (resolveLink credentials links node path) := by
  induction links generalizing node path with
  | zero => exact erases_quietly _
  | succ links hypothesis => exact resolveWith_erases hypothesis _ _ _ _

theorem resolve_erases (cwd : Nat) (path : Bytes) (followFinal : Bool) (credentials : Ownership) :
    Erases (resolveRecorded cwd path followFinal credentials)
      (resolveInternalAs cwd path followFinal credentials) :=
  resolveWith_erases (resolveLink_erases credentials _) _ _ _ _

theorem parentAndName_erases (cwd : Nat) (path : Bytes) (credentials : Ownership) :
    Erases (parentAndNameRecorded cwd path credentials) (parentAndNameAs cwd path credentials) :=
  erases_bind (erases_quietly _) fun _ => erases_bind (erases_quietly _) fun _ =>
    erases_bind (erases_quietly _) fun _ => erases_bind (resolve_erases _ _ _ _) fun _ =>
      erases_bind (erases_quietly _) fun _ => erases_bind (erases_quietly _) fun _ =>
        erases_record (erases_pure _)

theorem entryForPath_erases (cwd : Nat) (path : Bytes) (credentials : Ownership) :
    Erases (entryForPathRecorded cwd path credentials) (entryForPathAs cwd path credentials) := by
  refine erases_bind (parentAndName_erases _ _ _) fun ⟨parent, name⟩ =>
    erases_bind (erases_quietly _) fun found => ?_
  cases found with
  | some entry => exact erases_pure entry
  | none => exact erases_quietly _

/-! ### Every lookup is permitted -/

section Permitted

variable {credentials : Ownership} (nonroot : credentials.uid ≠ 0)
include nonroot

/-- A search that follows its check is permitted. -/
theorem records_search {Value : Type} {directory : Nat} {requested : Access}
    (executes : requested.execute = true) {whole : Recorded Vfs Lookup}
    {next : Unit → SearchCall Value}
    (rest : Keeps (Records (Lookup.Permitted credentials)) (next ())) :
    KeepsFrom (Records (Lookup.Permitted credentials)) whole
      (quietly (lift (whole.state.requireAccessNode directory credentials requested)) >>=
        fun _ => searching directory >>= next) := by
  refine keepsFrom_bind (Keeps.keepsFrom (records_quietly _)) fun _ after check => ?_
  obtain ⟨passed, rfl⟩ := Prod.mk.inj check
  exact keepsFrom_bind (records_record ((requireAccessNode_ok nonroot passed).1 executes))
    fun _ _ _ => Keeps.keepsFrom rest

section Walk

variable {jump : Nat → Bytes → SearchCall Nat}
  (jumps : ∀ node path, Keeps (Records (Lookup.Permitted credentials)) (jump node path))
include jumps

omit nonroot in
theorem stepInto_records (follow : Bool) (current : Nat) (name : Bytes) :
    Keeps (Records (Lookup.Permitted credentials)) (stepIntoRecorded jump follow current name) := by
  intro whole
  have entered (dentry : Nat) : Keeps (Records (Lookup.Permitted credentials))
      (enterDentryRecorded jump follow dentry) :=
    keeps_bind (records_quietly _) fun _ => keeps_ite (jumps _ _) (keeps_pure _)
  simp only [stepIntoRecorded]
  rcases acquireDentry current name whole.state with ⟨_ | reference, after⟩
  · exact id
  · exact entered reference.dentry { whole with state := after }

theorem walk_records (followFinal : Bool) (current : Nat) (components : List (Bytes × Bool)) :
    Keeps (Records (Lookup.Permitted credentials))
      (walkRecorded jump followFinal credentials current components) := by
  induction components generalizing current with
  | nil => exact records_quietly _
  | cons component rest hypothesis =>
    obtain ⟨name, hasSuffix⟩ := component
    intro whole
    refine keepsFrom_bind (Keeps.keepsFrom (records_quietly _)) fun vfs _ outcome => ?_
    obtain ⟨same, rfl⟩ := Prod.mk.inj outcome
    cases same
    refine keepsFrom_bind (Keeps.keepsFrom (records_quietly _)) fun _ after outcome => ?_
    obtain rfl : whole = after := by
      rw [quietly_apply, failWhen_apply] at outcome
      split at outcome
      · cases outcome
      · exact (Prod.mk.inj outcome).2
    refine records_search nonroot rfl (keeps_ite (hypothesis _) (keeps_ite ?_ ?_))
    · exact keeps_bind (records_quietly _) fun parent => hypothesis parent
    · exact keeps_bind (stepInto_records jumps _ _ _) fun next => hypothesis next

theorem resolveWith_records (followFinal : Bool) (cwd : Nat) (path : Bytes) :
    Keeps (Records (Lookup.Permitted credentials))
      (resolveWithRecorded jump followFinal credentials cwd path) :=
  keeps_bind (records_quietly _) fun _ => keeps_bind (records_quietly _) fun _ =>
    keeps_ite (records_quietly _) (keeps_bind (records_quietly _) fun start =>
      walk_records nonroot jumps followFinal start _)

end Walk

theorem resolveLink_records (links node : Nat) (path : Bytes) :
    Keeps (Records (Lookup.Permitted credentials)) (resolveLinkRecorded credentials links node path) := by
  induction links generalizing node path with
  | zero => exact records_quietly _
  | succ links hypothesis => exact resolveWith_records nonroot hypothesis _ _ _

theorem resolve_records (cwd : Nat) (path : Bytes) (followFinal : Bool) :
    Keeps (Records (Lookup.Permitted credentials))
      (resolveRecorded cwd path followFinal credentials) :=
  resolveWith_records nonroot (resolveLink_records nonroot _) _ _ _

theorem parentAndName_records (cwd : Nat) (path : Bytes) :
    Keeps (Records (Lookup.Permitted credentials)) (parentAndNameRecorded cwd path credentials) := by
  refine keeps_bind (records_quietly _) fun _ => keeps_bind (records_quietly _) fun _ =>
    keeps_bind (records_quietly _) fun _ => keeps_bind (resolve_records nonroot _ _ _)
      fun parent whole => ?_
  refine keepsFrom_bind (Keeps.keepsFrom (records_quietly _)) fun vfs _ outcome => ?_
  obtain ⟨same, rfl⟩ := Prod.mk.inj outcome
  cases same
  exact records_search nonroot rfl (keeps_pure _)

theorem entryForPath_records (cwd : Nat) (path : Bytes) :
    Keeps (Records (Lookup.Permitted credentials)) (entryForPathRecorded cwd path credentials) := by
  refine keeps_bind (parentAndName_records nonroot _ _) fun ⟨parent, name⟩ =>
    keeps_bind (records_quietly _) fun found => ?_
  cases found with
  | some entry => exact keeps_pure entry
  | none => exact records_quietly _

end Permitted

end Vfs

end ZigOs.RuntimeVfs
