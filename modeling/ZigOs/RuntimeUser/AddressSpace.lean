/-
This file models the address space of a process as its context keeps it: the
fixed layout of the user window, the table of mapped pages and the search for
a free range of pages. The search looks above a hint first and then below it,
and a range that reaches across the hint is seen by neither half.
-/

import ZigOs.Lib.Scan
import ZigOs.RuntimePagePool.Manager

namespace ZigOs.RuntimeUser

open Scan RuntimePagePool

/-! ### The user window -/

abbrev maximumMappings : Nat := 1024
abbrev stackPages : Nat := 8
abbrev userBase : Nat := 0x80_0000_0000
abbrev userWindowBytes : Nat := 1024 * 1024 * 1024
abbrev userEnd : Nat := userBase + userWindowBytes
abbrev trampolineVirtual : Nat := userEnd - pageBytes
abbrev stackTop : Nat := trampolineVirtual
abbrev stackVirtual : Nat := stackTop - stackPages * pageBytes
abbrev guardVirtual : Nat := stackVirtual - pageBytes
abbrev mmapFloor : Nat := userBase + 64 * 1024 * 1024
abbrev mmapCeiling : Nat := guardVirtual

def alignForward (value alignment : Nat) : Nat := (value + alignment - 1) / alignment * alignment

/-- The addresses a loop over pages visits, from a first one up to a limit. -/
def pagesBetween (first limit : Nat) : List Nat :=
  List.range' first ((limit - first + pageBytes - 1) / pageBytes) pageBytes

/-! ### The context -/

inductive MappingKind where
  | image | trampoline | stack | heap | anonymous | fileShared
  deriving DecidableEq, Repr

structure Mapping where
  used : Bool := false
  virtualAddress : Nat := 0
  physicalAddress : Nat := 0
  writable : Bool := false
  executable : Bool := false
  kind : MappingKind := .anonymous
  fileNode : Nat := 0xFFFF
  fileGeneration : Nat := 0
  fileSlot : Nat := 0
  deriving DecidableEq, Repr

/-- The part of a process context that says what is mapped where. -/
structure Context where
  mappings : Nat → Mapping := fun _ => {}
  mmapHint : Nat := mmapFloor

namespace Context

def findMapping (context : Context) (virtual : Nat) : Option Nat :=
  firstIndex maximumMappings fun index =>
    (context.mappings index).used && (context.mappings index).virtualAddress == virtual

/-! ### The search for a free range -/

def mappingRangeAvailable (context : Context) (first limit : Nat) : Bool :=
  (pagesBetween first limit).all fun virtual => (context.findMapping virtual).isNone

/-- The first candidate, page by page, from which the range is free and ends by the limit. -/
def scanMmapRange (context : Context) (first limit length : Nat) : Option Nat :=
  if first ≥ limit ∨ length > limit - first then none
  else (pagesBetween first (limit - length + 1)).find? fun candidate =>
    context.mappingRangeAvailable candidate (candidate + length)

/-- Where the search begins: the hint, brought into the window and onto a page. -/
def searchHint (context : Context) : Nat :=
  alignForward (max (min context.mmapHint mmapCeiling) mmapFloor) pageBytes

def findMmapRange (context : Context) (length : Nat) : Option Nat :=
  if length = 0 ∨ length > mmapCeiling - mmapFloor then none
  else match context.scanMmapRange context.searchHint mmapCeiling length with
    | some address => some address
    | none =>
      if context.searchHint > mmapFloor then
        context.scanMmapRange mmapFloor context.searchHint length
      else none

/-! ### Free ranges -/

/-- Some mapping of the table is for this page. -/
def Maps (context : Context) (page : Nat) : Prop :=
  ∃ index < maximumMappings,
    (context.mappings index).used = true ∧ (context.mappings index).virtualAddress = page

/-- A range of whole pages between two bounds, none of them mapped. -/
structure FreeBetween (context : Context) (first limit address length : Nat) : Prop where
  nonempty : 0 < length
  aligned : pageBytes ∣ address
  lower : first ≤ address
  upper : address + length ≤ limit
  unmapped : ∀ page, pageBytes ∣ page → address ≤ page → page < address + length →
    ¬ context.Maps page

/-- A free range of the window that `mmap` may use. -/
abbrev FreeRange (context : Context) (address length : Nat) : Prop :=
  context.FreeBetween mmapFloor mmapCeiling address length

theorem mem_pagesBetween {first limit page : Nat} :
    page ∈ pagesBetween first limit ↔ ∃ step, page = first + pageBytes * step ∧ page < limit := by
  unfold pagesBetween pageBytes
  rw [List.mem_range']
  constructor
  · rintro ⟨step, below, rfl⟩
    exact ⟨step, rfl, by omega⟩
  · rintro ⟨step, rfl, below⟩
    exact ⟨step, by omega, rfl⟩

theorem findMapping_eq_none {context : Context} {page : Nat} :
    context.findMapping page = none ↔ ¬ context.Maps page := by
  unfold findMapping Maps
  rw [firstIndex_eq_none]
  constructor
  · rintro missing ⟨index, below, used, same⟩
    simpa [used, same] using missing index below
  · intro missing index below
    by_contra present
    simp only [Bool.not_eq_false, Bool.and_eq_true, beq_iff_eq] at present
    exact missing ⟨index, below, present⟩

theorem mappingRangeAvailable_iff {context : Context} {first limit : Nat}
    (aligned : pageBytes ∣ first) :
    context.mappingRangeAvailable first limit = true ↔
      ∀ page, pageBytes ∣ page → first ≤ page → page < limit → ¬ context.Maps page := by
  simp only [mappingRangeAvailable, List.all_eq_true, Option.isNone_iff_eq_none, findMapping_eq_none]
  constructor
  · intro free page multiple above below
    obtain ⟨step, whole⟩ := Nat.dvd_sub multiple aligned
    exact free page (mem_pagesBetween.mpr ⟨step, by omega, below⟩)
  · intro free page member
    obtain ⟨step, rfl, below⟩ := mem_pagesBetween.mp member
    exact free _ (Nat.dvd_add aligned (Nat.dvd_mul_right _ _)) (Nat.le_add_right _ _) below

end Context

end ZigOs.RuntimeUser
