/-
This file models the physical memory manager: the extents of memory it was
given at boot, and the ordered list of the extents that are free. The pages it
hands out were free and are not any more, and a page that comes back becomes
free again unless the list of extents is full.
-/

import ZigOs.Lib.Extents

namespace ZigOs.RuntimePagePool

open Extents List

abbrev pageBytes : Nat := 4096
abbrev maximumRegions : Nat := 512
abbrev maximumPhysicalExtents : Nat := 1024
abbrev minimumAllocatableAddress : Nat := 0x00100000

/-- Rounding up saturates at the largest 64-bit number before the low bits are cleared. -/
def alignForward (value : Nat) : Nat :=
  min (value + (pageBytes - 1)) (2 ^ 64 - 1) / pageBytes * pageBytes

def alignBackward (value : Nat) : Nat := value / pageBytes * pageBytes

inductive PhysicalMemoryError where
  | invalidAddress | doubleFree | metadataExhausted
  deriving DecidableEq, Repr

structure PhysicalMemoryManager where
  managed : List Extent := []
  freeExtents : List Extent := []
  totalPages : Nat := 0
  deriving DecidableEq, Repr

namespace PhysicalMemoryManager

/-- Move the end of the last extent. -/
def extendLast (stop : Nat) : List Extent → List Extent
  | [] => []
  | [extent] => [{ extent with stop }]
  | extent :: next :: rest => extent :: extendLast stop (next :: rest)

/-- Add usable memory above everything added before, merging it with the last extent when the
two touch. -/
def appendInitialExtent (manager : PhysicalMemoryManager) (raw : Extent) :
    Option PhysicalMemoryManager :=
  let base := alignForward raw.base
  let stop := alignBackward raw.stop
  if base < minimumAllocatableAddress ∨ base ≥ stop then none
  else if manager.managed.length ≥ maximumRegions ∨
      manager.freeExtents.length ≥ maximumPhysicalExtents then none
  else
    let totalPages := manager.totalPages + (stop - base) / pageBytes
    match manager.managed.getLast? with
    | none =>
      some {
        managed := manager.managed ++ [⟨base, stop⟩]
        freeExtents := manager.freeExtents ++ [⟨base, stop⟩]
        totalPages }
    | some last =>
      if last.stop > base then none
      else if last.stop = base then
        some {
          managed := extendLast stop manager.managed
          freeExtents := extendLast stop manager.freeExtents
          totalPages }
      else
        some {
          managed := manager.managed ++ [⟨base, stop⟩]
          freeExtents := manager.freeExtents ++ [⟨base, stop⟩]
          totalPages }

def appendInitialExtents (manager : PhysicalMemoryManager) : List Extent → Option PhysicalMemoryManager
  | [] => some manager
  | raw :: rest =>
    match manager.appendInitialExtent raw with
    | none => none
    | some grown => grown.appendInitialExtents rest

/-- A manager over the given extents. The hand-over from the boot allocator appends the extents
that it has not used in the same way. -/
def initForTesting (extents : List Extent) : Option PhysicalMemoryManager :=
  match appendInitialExtents {} extents with
  | none => none
  | some manager => if manager.totalPages = 0 then none else some manager

def allocateContiguousBelow (manager : PhysicalMemoryManager) (pageCount limitExclusive : Nat) :
    Option (Nat × PhysicalMemoryManager) :=
  if pageCount = 0 ∨ limitExclusive < pageBytes then none
  else if pageCount * pageBytes ≥ 2 ^ 64 then none
  else if pageCount * pageBytes > limitExclusive then none
  else match takeFirst (pageCount * pageBytes) limitExclusive manager.freeExtents with
    | none => none
    | some (base, freeExtents) => some (base, { manager with freeExtents })

def allocateBelow (manager : PhysicalMemoryManager) (limitExclusive : Nat) :
    Option (Nat × PhysicalMemoryManager) :=
  manager.allocateContiguousBelow 1 limitExclusive

def containsManaged (manager : PhysicalMemoryManager) (base stop : Nat) : Bool :=
  manager.managed.any fun extent => base ≥ extent.base ∧ stop ≤ extent.stop

/-- The search stops at the first extent that starts above the base. -/
def containsFree (base stop : Nat) : List Extent → Bool
  | [] => false
  | extent :: rest =>
    if base ≥ extent.base ∧ stop ≤ extent.stop then true
    else if extent.base > base then false
    else containsFree base stop rest

def free (manager : PhysicalMemoryManager) (address : Nat) :
    Except PhysicalMemoryError PhysicalMemoryManager :=
  if address = 0 ∨ address % pageBytes ≠ 0 ∨ address > 2 ^ 64 - 1 - pageBytes then
    .error .invalidAddress
  else if manager.containsManaged address (address + pageBytes) = false then .error .invalidAddress
  else if containsFree address (address + pageBytes) manager.freeExtents then .error .doubleFree
  else match giveBack maximumPhysicalExtents address (address + pageBytes) manager.freeExtents with
    | none => .error .metadataExhausted
    | some freeExtents => .ok { manager with freeExtents }

/-! ### What is free -/

/-- The manager may hand the address out. -/
def IsFree (manager : PhysicalMemoryManager) (address : Nat) : Prop :=
  Covered manager.freeExtents address

instance (manager : PhysicalMemoryManager) (address : Nat) : Decidable (manager.IsFree address) :=
  inferInstanceAs (Decidable (Covered _ _))

/-- The address is memory that the manager was given. -/
def IsManaged (manager : PhysicalMemoryManager) (address : Nat) : Prop :=
  Covered manager.managed address

/-- Both lists are in order, only managed memory is free, and the memory lies where a free
accepts it. -/
structure Sound (manager : PhysicalMemoryManager) : Prop where
  managed : Tidy pageBytes manager.managed
  free : Tidy pageBytes manager.freeExtents
  length : manager.freeExtents.length ≤ maximumPhysicalExtents
  within : ∀ address, manager.IsFree address → manager.IsManaged address
  bounds : ∀ extent ∈ manager.managed,
    minimumAllocatableAddress ≤ extent.base ∧ extent.stop ≤ 2 ^ 64 - pageBytes

variable {extents : List Extent}

section Lookup

variable {manager : PhysicalMemoryManager} {address : Nat}

theorem containsFree_iff (tidy : Tidy pageBytes extents) (multiple : pageBytes ∣ address) :
    containsFree address (address + pageBytes) extents = true ↔ Covered extents address := by
  induction extents with
  | nil => simp [containsFree]
  | cons extent rest hypothesis =>
    obtain ⟨aligned, before, tidyRest⟩ := tidy_cons.mp tidy
    rw [covered_cons]
    unfold containsFree
    split
    · rename_i inside
      exact iff_of_true rfl
        (.inl ⟨inside.1, (Nat.lt_add_of_pos_right (by decide)).trans_le inside.2⟩)
    · rename_i outside
      have misses : ¬ extent.Covers address := fun covers =>
        outside ⟨covers.1, aligned.unit_le multiple covers⟩
      split
      · rename_i above
        refine iff_of_false (by decide) ?_
        rintro (here | later)
        · exact misses here
        · exact not_covered_below (fun other member => aligned.nonempty.le.trans (before other member))
            above later
      · rw [hypothesis tidyRest, or_iff_right misses]

theorem Sound.containsManaged (sound : Sound manager) (multiple : pageBytes ∣ address)
    (managed : manager.IsManaged address) :
    manager.containsManaged address (address + pageBytes) = true := by
  obtain ⟨extent, member, covers⟩ := managed
  refine any_eq_true.mpr ⟨extent, member, ?_⟩
  simpa using ⟨covers.1, (sound.managed.aligned extent member).unit_le multiple covers⟩

variable {after : PhysicalMemoryManager}

/-- What an allocation takes. -/
theorem Sound.allocate {pageCount limit base : Nat} (sound : Sound manager)
    (allocated : manager.allocateContiguousBelow pageCount limit = some (base, after)) :
    Sound after ∧ after.managed = manager.managed ∧ 0 < pageCount ∧ pageBytes ∣ base ∧
      (∀ other, manager.IsFree other ↔
        after.IsFree other ∨ (base ≤ other ∧ other < base + pageCount * pageBytes)) ∧
      ∀ other, base ≤ other → other < base + pageCount * pageBytes → ¬ after.IsFree other := by
  unfold allocateContiguousBelow at allocated
  split at allocated
  · cases allocated
  · rename_i asked
    have positive : 0 < pageCount := Nat.pos_of_ne_zero fun zero => asked (.inl zero)
    split_ifs at allocated
    split at allocated
    · cases allocated
    · rename_i found left taken
      cases (Option.some.inj allocated)
      have spec := takeFirst_taken sound.free (by positivity) (dvd_mul_left pageBytes pageCount) taken
      refine ⟨⟨sound.managed, spec.tidy, spec.length.trans sound.length, fun other isFree => ?_,
        sound.bounds⟩, rfl, positive, spec.multiple, spec.covered, spec.apart⟩
      exact sound.within other ((spec.covered other).mpr (.inl isFree))

/-- What a free gives back. -/
theorem Sound.free_ok (sound : Sound manager) (freed : manager.free address = .ok after) :
    Sound after ∧ after.managed = manager.managed ∧ pageBytes ∣ address ∧ ¬ manager.IsFree address ∧
      ∀ other, after.IsFree other ↔
        manager.IsFree other ∨ (address ≤ other ∧ other < address + pageBytes) := by
  unfold PhysicalMemoryManager.free at freed
  split_ifs at freed with malformed unmanaged already
  have multiple : pageBytes ∣ address := by
    push Not at malformed
    exact Nat.dvd_of_mod_eq_zero malformed.2.1
  have uncovered : ¬ Covered manager.freeExtents address := fun covered =>
    already ((containsFree_iff sound.free multiple).mpr covered)
  split at freed
  · cases freed
  · rename_i left given
    cases freed
    have spec := giveBack_given sound.free (by decide) multiple uncovered sound.length given
    refine ⟨⟨sound.managed, spec.tidy, spec.length, fun other isFree => ?_, sound.bounds⟩, rfl, multiple,
      uncovered, spec.covered⟩
    rcases (spec.covered other).mp isFree with before | here
    · exact sound.within other before
    · obtain ⟨extent, member, inside⟩ := any_eq_true.mp
        (show manager.containsManaged address (address + pageBytes) = true by simpa using unmanaged)
      simp only [ge_iff_le, decide_eq_true_eq] at inside
      exact ⟨extent, member, by omega, by omega⟩

/-- A page that somebody holds can come back, unless the list of free extents is full. -/
theorem Sound.free_held (sound : Sound manager) (multiple : pageBytes ∣ address)
    (managed : manager.IsManaged address) (held : ¬ manager.IsFree address)
    (room : manager.freeExtents.length < maximumPhysicalExtents) :
    ∃ after, manager.free address = .ok after := by
  obtain ⟨extent, member, covers⟩ := managed
  obtain ⟨low, high⟩ := sound.bounds extent member
  have inside := (sound.managed.aligned extent member).unit_le multiple covers
  have start := covers.1
  unfold PhysicalMemoryManager.free
  rw [if_neg, if_neg, if_neg]
  · rcases given : giveBack maximumPhysicalExtents address (address + pageBytes)
      manager.freeExtents with _ | left
    · exact absurd (giveBack_none given) (not_le.mpr room)
    · exact ⟨_, rfl⟩
  · rwa [containsFree_iff sound.free multiple]
  · rw [sound.containsManaged multiple ⟨extent, member, covers⟩]
    decide
  · have aligned := Nat.mod_eq_zero_of_dvd multiple
    rintro (zero | odd | large)
    · rw [zero] at start
      cases low.trans start
    · exact odd aligned
    · have size : pageBytes = 4096 := rfl
      omega

end Lookup

/-! ### The first manager -/

/-- A manager that has handed nothing out. -/
structure Untouched (manager : PhysicalMemoryManager) : Prop where
  whole : manager.freeExtents = manager.managed
  tidy : Tidy pageBytes manager.managed
  length : manager.managed.length ≤ maximumPhysicalExtents
  bounds : ∀ extent ∈ manager.managed,
    minimumAllocatableAddress ≤ extent.base ∧ extent.stop ≤ 2 ^ 64 - pageBytes

variable {manager : PhysicalMemoryManager}

theorem Untouched.sound (untouched : Untouched manager) : Sound manager := by
  obtain ⟨whole, tidy, length, bounds⟩ := untouched
  refine ⟨tidy, whole ▸ tidy, whole ▸ length, fun address isFree => ?_, bounds⟩
  unfold IsFree at isFree
  rwa [whole] at isFree

theorem extendLast_concat (stop : Nat) (front : List Extent) (last : Extent) :
    extendLast stop (front ++ [last]) = front ++ [{ last with stop }] := by
  induction front with
  | nil => rfl
  | cons extent rest hypothesis =>
    rcases rest with _ | ⟨next, rest⟩
    · rfl
    · exact congrArg (extent :: ·) hypothesis

variable {raw : Extent}

theorem aligned_rounded (small : raw.stop < 2 ^ 64)
    (nonempty : alignForward raw.base < alignBackward raw.stop) :
    Aligned pageBytes ⟨alignForward raw.base, alignBackward raw.stop⟩ ∧
      alignBackward raw.stop ≤ 2 ^ 64 - pageBytes := by
  refine ⟨⟨dvd_mul_left _ _, dvd_mul_left _ _, nonempty⟩, ?_⟩
  unfold alignBackward pageBytes
  omega

variable {grown : PhysicalMemoryManager}

theorem Untouched.append (untouched : Untouched manager) (small : raw.stop < 2 ^ 64)
    (appended : manager.appendInitialExtent raw = some grown) : Untouched grown := by
  obtain ⟨whole, tidy, -, bounds⟩ := untouched
  unfold appendInitialExtent at appended
  dsimp only at appended
  split at appended
  · cases appended
  · rename_i proper
    push Not at proper
    obtain ⟨aligned, top⟩ := aligned_rounded small proper.2
    split at appended
    · cases appended
    · rename_i room
      push Not at room
      have shorter := whole ▸ room.2
      have alone (before : ∀ extent ∈ manager.managed, extent.stop ≤ alignForward raw.base) :
          Untouched {
            managed := manager.managed ++ [⟨alignForward raw.base, alignBackward raw.stop⟩]
            freeExtents := manager.freeExtents ++ [⟨alignForward raw.base, alignBackward raw.stop⟩]
            totalPages :=
              manager.totalPages + (alignBackward raw.stop - alignForward raw.base) / pageBytes } := by
        refine ⟨by rw [whole], tidy_between tidy aligned tidy_nil before nofun, ?_,
          fun extent member => ?_⟩
        · rwa [length_append]
        · rcases mem_append.mp member with old | new
          · exact bounds extent old
          · rw [mem_singleton.mp new]
            exact ⟨proper.1, top⟩
      split at appended
      · rename_i empty
        cases appended
        refine alone fun extent member => ?_
        rw [getLast?_eq_none_iff.mp empty] at member
        cases member
      · rename_i last isLast
        obtain ⟨front, split_managed⟩ := getLast?_eq_some_iff.mp isLast
        rw [split_managed] at tidy bounds shorter
        obtain ⟨tidyFront, tidyLast, upTo⟩ := tidy_append.mp tidy
        have alignedLast := (tidy_cons.mp tidyLast).1
        split_ifs at appended with above touches
        · cases appended
          rw [whole, split_managed, extendLast_concat]
          refine ⟨rfl, tidy_between tidyFront ⟨alignedLast.base, aligned.stop, ?_⟩ tidy_nil
            (fun earlier member => upTo earlier member last mem_cons_self) nofun, ?_,
            fun extent member => ?_⟩
          · exact alignedLast.nonempty.trans (touches ▸ proper.2)
          · simp only [length_append, length_cons, length_nil] at shorter ⊢
            exact shorter.le
          · rcases mem_append.mp member with old | new
            · exact bounds extent (mem_append_left _ old)
            · rw [mem_singleton.mp new]
              exact ⟨(bounds last (mem_append_right _ mem_cons_self)).1, top⟩
        · cases appended
          refine alone fun extent member => ?_
          rw [split_managed] at member
          rcases mem_append.mp member with old | new
          · exact (upTo extent old last mem_cons_self).trans
              (alignedLast.nonempty.le.trans (not_lt.mp above))
          · rw [mem_singleton.mp new]
            exact not_lt.mp above

theorem Untouched.appends (untouched : Untouched manager)
    (small : ∀ raw ∈ extents, raw.stop < 2 ^ 64)
    (appended : manager.appendInitialExtents extents = some grown) : Untouched grown := by
  induction extents generalizing manager with
  | nil => exact Option.some.inj appended ▸ untouched
  | cons raw rest hypothesis =>
    unfold appendInitialExtents at appended
    split at appended
    · cases appended
    · rename_i middle first
      exact hypothesis (untouched.append (small raw mem_cons_self) first)
        (fun other member => small other (mem_cons_of_mem _ member)) appended

theorem initForTesting_untouched (small : ∀ raw ∈ extents, raw.stop < 2 ^ 64)
    (built : initForTesting extents = some manager) : Untouched manager := by
  have empty : Untouched {} := ⟨rfl, tidy_nil, Nat.zero_le _, nofun⟩
  unfold initForTesting at built
  split at built
  · cases built
  · rename_i grown appended
    split at built
    · cases built
    · exact Option.some.inj built ▸ empty.appends small appended

end PhysicalMemoryManager

end ZigOs.RuntimePagePool
