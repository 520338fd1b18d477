/-
This file proves what the search for a free range finds. What it returns is
always a free range of the window. It misses a free range only when every one
of the requested length reaches across the hint, and then it reports a full
window.
-/

import ZigOs.RuntimeUser.AddressSpace

namespace ZigOs.RuntimeUser

open Scan RuntimePagePool

namespace Context

variable {context : Context} {first limit length address : Nat}

/-! ### One half of the window -/

theorem scanMmapRange_free (nonempty : 0 < length) (aligned : pageBytes ∣ first)
    (found : context.scanMmapRange first limit length = some address) :
    context.FreeBetween first limit address length := by
  unfold scanMmapRange at found
  split at found
  · cases found
  · rename_i fits
    obtain ⟨step, rfl, below⟩ := mem_pagesBetween.mp (List.mem_of_find?_eq_some found)
    have multiple : pageBytes ∣ first + pageBytes * step :=
      Nat.dvd_add aligned (Nat.dvd_mul_right _ _)
    have available : context.mappingRangeAvailable (first + pageBytes * step)
        (first + pageBytes * step + length) = true := by simpa using List.find?_some found
    have free := (mappingRangeAvailable_iff multiple).mp available
    exact { nonempty, aligned := multiple, lower := Nat.le_add_right _ _, upper := by omega
            unmapped := free }

theorem scanMmapRange_full (aligned : pageBytes ∣ first)
    (missed : context.scanMmapRange first limit length = none) :
    ¬ context.FreeBetween first limit address length := by
  intro free
  obtain ⟨nonempty, multiple, lower, upper, unmapped⟩ := free
  have fits : ¬ (first ≥ limit ∨ length > limit - first) := by omega
  rw [scanMmapRange, if_neg fits, List.find?_eq_none] at missed
  obtain ⟨step, whole⟩ := Nat.dvd_sub multiple aligned
  have visited : address ∈ pagesBetween first (limit - length + 1) :=
    mem_pagesBetween.mpr ⟨step, by omega, by omega⟩
  exact missed address visited ((mappingRangeAvailable_iff multiple).mpr unmapped)

/-! ### The hint -/

theorem mmapFloor_aligned : pageBytes ∣ mmapFloor := by decide

theorem searchHint_aligned (context : Context) : pageBytes ∣ context.searchHint :=
  Nat.dvd_mul_left _ _

theorem searchHint_bounds (context : Context) :
    mmapFloor ≤ context.searchHint ∧ context.searchHint ≤ mmapCeiling := by
  unfold searchHint alignForward mmapCeiling guardVirtual stackVirtual stackTop trampolineVirtual
    userEnd mmapFloor userBase userWindowBytes stackPages pageBytes
  omega

/-- A free range of the window that does not reach across the hint. -/
def FreeBeside (context : Context) (address length : Nat) : Prop :=
  context.FreeBetween context.searchHint mmapCeiling address length ∨
    context.FreeBetween mmapFloor context.searchHint address length

theorem FreeBeside.freeRange (beside : context.FreeBeside address length) :
    context.FreeRange address length := by
  obtain ⟨floor, ceiling⟩ := context.searchHint_bounds
  rcases beside with ⟨nonempty, aligned, lower, upper, unmapped⟩ |
    ⟨nonempty, aligned, lower, upper, unmapped⟩
  · exact ⟨nonempty, aligned, floor.trans lower, upper, unmapped⟩
  · exact ⟨nonempty, aligned, lower, upper.trans ceiling, unmapped⟩

theorem freeBeside_iff : context.FreeBeside address length ↔ context.FreeRange address length ∧
      (context.searchHint ≤ address ∨ address + length ≤ context.searchHint) := by
  constructor
  · intro beside
    exact ⟨beside.freeRange, beside.imp (fun above => above.lower) fun below => below.upper⟩
  · rintro ⟨⟨nonempty, aligned, lower, upper, unmapped⟩, above | below⟩
    · exact .inl ⟨nonempty, aligned, above, upper, unmapped⟩
    · exact .inr ⟨nonempty, aligned, lower, below, unmapped⟩

/-! ### The whole search -/

theorem findMmapRange_beside (found : context.findMmapRange length = some address) :
    context.FreeBeside address length := by
  unfold findMmapRange at found
  split at found
  · cases found
  · have nonempty : 0 < length := by omega
    split at found
    · rename_i above
      rw [found] at above
      exact .inl (scanMmapRange_free nonempty (searchHint_aligned context) above)
    · split at found
      · exact .inr (scanMmapRange_free nonempty mmapFloor_aligned found)
      · cases found

theorem findMmapRange_full (missed : context.findMmapRange length = none) :
    ¬ context.FreeBeside address length := by
  intro beside
  have range := beside.freeRange
  have sized : ¬ (length = 0 ∨ length > mmapCeiling - mmapFloor) := by
    have nonempty := range.nonempty
    have lower := range.lower
    have upper := range.upper
    omega
  rw [findMmapRange, if_neg sized] at missed
  split at missed
  · cases missed
  · rename_i nothingAbove
    rcases beside with above | below
    · exact scanMmapRange_full (searchHint_aligned context) nothingAbove above
    · have nonempty := below.nonempty
      have lower := below.lower
      have upper := below.upper
      rw [if_pos (by omega)] at missed
      exact scanMmapRange_full mmapFloor_aligned missed below

/-- The search returns only free ranges, and nothing only when there is none. -/
def SearchExact (context : Context) (length : Nat) : Prop :=
  (∀ address, context.findMmapRange length = some address → context.FreeRange address length) ∧
    (context.findMmapRange length = none → ∀ address, ¬ context.FreeRange address length)

/-- The search is exact unless all the free ranges of the requested length reach across the
hint. -/
theorem findMmapRange_exact_iff (context : Context) (pages : Nat) :
    context.SearchExact (pages * pageBytes) ↔
      ∀ address, context.FreeRange address (pages * pageBytes) →
        address < context.searchHint → context.searchHint < address + pages * pageBytes →
        ∃ other, context.FreeRange other (pages * pageBytes) ∧
          (context.searchHint ≤ other ∨ other + pages * pageBytes ≤ context.searchHint) := by
  constructor
  · rintro ⟨-, complete⟩ address free - -
    rcases outcome : context.findMmapRange (pages * pageBytes) with _ | other
    · exact absurd free (complete outcome address)
    · exact ⟨other, freeBeside_iff.mp (findMmapRange_beside outcome)⟩
  · intro otherwise
    refine ⟨fun address found => (findMmapRange_beside found).freeRange, fun missed address free => ?_⟩
    have nowhere : ∀ other, ¬ context.FreeBeside other (pages * pageBytes) := fun other =>
      findMmapRange_full missed
    by_cases across : address < context.searchHint ∧
        context.searchHint < address + pages * pageBytes
    · obtain ⟨other, beside⟩ := otherwise address free across.1 across.2
      exact nowhere other (freeBeside_iff.mpr beside)
    · exact nowhere address (freeBeside_iff.mpr ⟨free, by omega⟩)

/-! ### A range across the hint -/

/-- One page is mapped after every 1022 free ones, but for the page at the hint, which `munmap`
has just freed. -/
def spreadContext : Context where
  mappings index :=
    if index < 240 then
      { used := true
        virtualAddress := mmapFloor + pageBytes * (1023 * if index < 120 then index else index + 1)
        physicalAddress := pageBytes * (index + 1) }
    else {}
  mmapHint := mmapFloor + pageBytes * (1023 * 120)

theorem spreadContext_hint : spreadContext.searchHint = mmapFloor + pageBytes * (1023 * 120) := by
  decide

theorem spreadContext_maps (page : Nat) : spreadContext.Maps page ↔
    ∃ step < 241, step ≠ 120 ∧ page = mmapFloor + pageBytes * (1023 * step) := by
  unfold Maps spreadContext maximumMappings
  constructor
  · rintro ⟨index, -, used, rfl⟩
    by_cases placed : index < 240
    · refine ⟨if index < 120 then index else index + 1, ?_, ?_, by simp only [if_pos placed]⟩ <;>
        split <;> omega
    · simp [placed] at used
  · rintro ⟨step, below, other, rfl⟩
    rcases Nat.lt_or_gt_of_ne other with early | late
    · exact ⟨step, by omega, by simp [early, show step < 240 by omega]⟩
    · exact ⟨step - 1, by omega, by
        simp [show step - 1 < 240 by omega, show ¬ step - 1 < 120 by omega,
          show step - 1 + 1 = step by omega]⟩

/-- On either side of the hint, every 1023 pages hold a mapped one. -/
theorem spreadContext_crowded : ¬ spreadContext.FreeBeside address (1024 * pageBytes) := by
  rw [freeBeside_iff, spreadContext_hint]
  rintro ⟨⟨-, multiple, lower, upper, unmapped⟩, side⟩
  obtain ⟨page, offset⟩ := Nat.dvd_sub multiple mmapFloor_aligned
  -- The first mapped page behind the address, counted in steps of 1023 pages.
  have step := Nat.div_add_mod page 1023
  have below := Nat.mod_lt page (show 0 < 1023 by decide)
  unfold mmapCeiling guardVirtual stackVirtual stackTop trampolineVirtual userEnd mmapFloor userBase
    userWindowBytes stackPages pageBytes at *
  refine unmapped (0x80_0000_0000 + 64 * 1024 * 1024 + 4096 * (1023 * (page / 1023 + 1)))
    (by omega) (by omega) (by omega) ((spreadContext_maps _).mpr ⟨page / 1023 + 1, ?_, ?_, rfl⟩)
  · omega
  · omega

theorem spreadContext_freeRange :
    spreadContext.FreeRange (mmapFloor + pageBytes * (1023 * 119 + 1)) (1024 * pageBytes) where
  nonempty := by decide
  aligned := by decide
  lower := by decide
  upper := by decide
  unmapped := by
    intro page _ lower upper mapped
    obtain ⟨step, -, other, rfl⟩ := (spreadContext_maps page).mp mapped
    unfold pageBytes at lower upper
    omega

/-- A request for 1024 pages is refused although 2045 pages around the hint are free. -/
theorem spreadContext_not_exact : ¬ spreadContext.SearchExact (1024 * pageBytes) := by
  rintro ⟨-, complete⟩
  rcases outcome : spreadContext.findMmapRange (1024 * pageBytes) with _ | address
  · exact complete outcome _ spreadContext_freeRange
  · exact spreadContext_crowded (findMmapRange_beside outcome)

end Context

end ZigOs.RuntimeUser
