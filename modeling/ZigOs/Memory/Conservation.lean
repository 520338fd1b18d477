/-
This file proves that no page is lost or handed out twice at boot. The usable
pages of the layout stand in one increasing list, and the allocator cuts it: the
pages in front of the cut are held, the ones behind it are still to come, and a
checkpoint that is restored moves the cut back to where it was. The manager that
takes over gets exactly what lies behind the cut.
-/

import ZigOs.Memory.FrameAllocator

namespace ZigOs.Memory

open Extents RuntimePagePool List

/-! ### Pages -/

/-- The whole pages from an address on, up to another one. -/
def pagesBetween (base stop : Nat) : List Nat :=
  (List.range ((stop - base) / pageBytes)).map fun index => base + index * pageBytes

variable {base stop : Nat}

theorem pagesBetween_of_le (none : stop ≤ base) : pagesBetween base stop = [] := by
  rw [pagesBetween, Nat.sub_eq_zero_of_le none, Nat.zero_div, range_zero, map_nil]

theorem pagesBetween_length (base stop : Nat) :
    (pagesBetween base stop).length = (stop - base) / pageBytes := by
  rw [pagesBetween, length_map, length_range]

/-- Whole pages can be cut off the front. -/
theorem pagesBetween_append {middle : Nat} (first : base ≤ middle) (second : middle ≤ stop)
    (whole : pageBytes ∣ middle - base) :
    pagesBetween base stop = pagesBetween base middle ++ pagesBetween middle stop := by
  obtain ⟨count, size⟩ := whole
  have split : (stop - base) / pageBytes = count + (stop - middle) / pageBytes := by
    rw [show stop - base = (stop - middle) + pageBytes * count by omega,
      Nat.add_mul_div_left _ _ (by decide), Nat.add_comm]
  have front : (middle - base) / pageBytes = count := by
    rw [size, Nat.mul_div_cancel_left _ (by decide)]
  have start : middle = base + count * pageBytes := by rw [Nat.mul_comm]; omega
  rw [pagesBetween, pagesBetween, pagesBetween, split, front, range_add, map_append, map_map]
  congr 1
  refine map_congr_left fun index _ => ?_
  simp only [Function.comp_apply, start, Nat.add_mul]
  omega

variable {page : Nat}

theorem mem_pagesBetween (aligned : pageBytes ∣ base) :
    page ∈ pagesBetween base stop ↔ pageBytes ∣ page ∧ base ≤ page ∧ page + pageBytes ≤ stop := by
  unfold pagesBetween
  simp only [mem_map, mem_range]
  constructor
  · rintro ⟨index, below, rfl⟩
    have room := (Nat.le_div_iff_mul_le (show 0 < pageBytes by decide)).mp (Nat.succ_le_of_lt below)
    rw [Nat.succ_mul] at room
    have size : 0 < pageBytes := by decide
    exact ⟨dvd_add aligned (dvd_mul_left _ _), Nat.le_add_right _ _, by omega⟩
  · rintro ⟨multiple, above, below⟩
    obtain ⟨index, size⟩ := Nat.dvd_sub multiple aligned
    refine ⟨index, ?_, by rw [Nat.mul_comm, ← size]; omega⟩
    refine Nat.lt_of_succ_le ((Nat.le_div_iff_mul_le (by decide)).mpr ?_)
    rw [Nat.succ_mul, Nat.mul_comm, ← size]
    omega

theorem pagesBetween_increasing (base stop : Nat) : (pagesBetween base stop).Pairwise (· < ·) := by
  refine pairwise_map.mpr (pairwise_lt_range.imp fun {first second} less => ?_)
  exact Nat.add_lt_add_left (Nat.mul_lt_mul_of_pos_right less (by decide)) base

/-! ### The pages of a layout -/

/-- A whole page of a usable region, at or above the least address that may be handed out. -/
structure WholeUsable (layout : Layout) (page : Nat) : Prop where
  aligned : pageBytes ∣ page
  minimum : minimumAllocatableAddress ≤ page
  inside : ∃ region ∈ layout.regions, region.kind = .usable ∧ region.base ≤ page ∧
    page + pageBytes ≤ region.stop

def Region.pages (region : Region) : List Nat :=
  if region.kind = .usable then pagesBetween region.start region.fullEnd else []

/-- The region has no page to hand out. -/
def Region.Bare (region : Region) : Prop := region.kind ≠ .usable ∨ region.fullEnd ≤ region.start

theorem Region.Bare.pages {region : Region} (bare : region.Bare) : region.pages = [] := by
  rcases bare with other | none
  · exact if_neg other
  · unfold Region.pages
    split
    · exact pagesBetween_of_le none
    · rfl

def usablePages (layout : Layout) : List Nat := layout.regions.flatMap Region.pages

theorem dvd_start (region : Region) : pageBytes ∣ region.start := by
  unfold Region.start
  rcases max_cases (alignForward region.base) minimumAllocatableAddress with ⟨same, -⟩ | ⟨same, -⟩
  · rw [same]
    exact dvd_mul_left _ _
  · rw [same]
    decide

theorem dvd_fullEnd (region : Region) : pageBytes ∣ region.fullEnd := dvd_mul_left _ _

theorem fullEnd_le (region : Region) : region.fullEnd ≤ region.stop := Nat.div_mul_le_self _ _

theorem mem_regionPages {region : Region} (base_lt : region.base < 2 ^ 64)
    (stop_lt : region.stop < 2 ^ 64) :
    page ∈ region.pages ↔ region.kind = .usable ∧ pageBytes ∣ page ∧
      minimumAllocatableAddress ≤ page ∧ region.base ≤ page ∧ page + pageBytes ≤ region.stop := by
  unfold Region.pages
  split
  · rename_i usable
    rw [mem_pagesBetween (dvd_start region)]
    simp only [usable, true_and]
    refine and_congr_right fun ⟨index, multiple⟩ => ?_
    simp only [Region.start, Region.fullEnd, alignForward, alignBackward, max_le_iff, pageBytes,
      minimumAllocatableAddress] at multiple ⊢
    omega
  · rename_i other
    simp [other]

theorem mem_usablePages {layout : Layout} :
    page ∈ usablePages layout ↔ WholeUsable layout page := by
  unfold usablePages
  rw [mem_flatMap]
  constructor
  · rintro ⟨region, member, isPage⟩
    obtain ⟨usable, aligned, minimum, above, below⟩ :=
      (mem_regionPages (layout.base_lt region member) (layout.stop_lt region member)).mp isPage
    exact ⟨aligned, minimum, region, member, usable, above, below⟩
  · rintro ⟨aligned, minimum, region, member, usable, above, below⟩
    exact ⟨region, member, (mem_regionPages (layout.base_lt region member)
      (layout.stop_lt region member)).mpr ⟨usable, aligned, minimum, above, below⟩⟩

theorem usablePages_increasing (layout : Layout) : (usablePages layout).Pairwise (· < ·) := by
  refine pairwise_flatMap.mpr ⟨fun region _ => ?_, ?_⟩
  · unfold Region.pages
    split
    · exact pagesBetween_increasing _ _
    · exact List.Pairwise.nil
  · refine layout.ordered.imp_of_mem fun {first second} isFirst isSecond apart page inFirst other inSecond => ?_
    have low := (mem_regionPages (layout.base_lt _ isFirst) (layout.stop_lt _ isFirst)).mp inFirst
    have high := (mem_regionPages (layout.base_lt _ isSecond) (layout.stop_lt _ isSecond)).mp inSecond
    have size : 0 < pageBytes := by decide
    omega

theorem usablePages_nodup (layout : Layout) : (usablePages layout).Nodup :=
  (usablePages_increasing layout).imp fun less => less.ne

/-! ### The cut -/

/-- The pages that are still to come. -/
def remainingPages (layout : Layout) (position : Checkpoint) : List Nat :=
  pagesBetween position.currentFrame position.currentRegionFullEnd ++
    (layout.regions.drop position.regionIndex).flatMap Region.pages

/-- The region in front of the cursor is the one being handed out, or it has nothing. -/
structure Current (layout : Layout) (position : Checkpoint) (region : Region) : Prop where
  behind : 0 < position.regionIndex
  found : layout.regions[position.regionIndex - 1]? = some region
  part : (region.Bare ∧ position.currentFrame = position.currentRegionFullEnd) ∨
    (region.kind = .usable ∧ region.fullEnd = position.currentRegionFullEnd ∧
      region.start ≤ position.currentFrame)

/-- The allocator stands behind the pages that were handed out, and in front of all others. -/
structure Placed (layout : Layout) (position : Checkpoint) (handed : List Nat) : Prop where
  pages : handed ++ remainingPages layout position = usablePages layout
  counted : position.allocatedPages = handed.length
  frame : pageBytes ∣ position.currentFrame
  full : pageBytes ∣ position.currentRegionFullEnd
  ordered : position.currentFrame ≤ position.currentRegionFullEnd
  regionEnd : position.currentRegionEnd ≤ position.currentRegionFullEnd
  whole : pageBytes ∣ position.currentRegionEnd
  small : position.currentRegionFullEnd < 2 ^ 64
  current : position.currentRegionFullEnd ≠ 0 → ∃ region, Current layout position region

theorem alignBackward_le (value : Nat) : alignBackward value ≤ value := Nat.div_mul_le_self _ _

namespace FrameAllocator

variable {layout : Layout} {allocator after : FrameAllocator} {handed : List Nat}

variable {limit : Nat}

/-- Looking for the next region moves the cursor over regions that have nothing. -/
theorem scanRegions_placed {rest : List Region}
    (ahead : layout.regions.drop allocator.regionIndex = rest)
    (placed : Placed layout allocator.checkpoint handed)
    (exhausted : allocator.currentFrame = allocator.currentRegionFullEnd) :
    Placed layout (scanRegions limit rest allocator).2.checkpoint handed ∧
      (scanRegions limit rest allocator).2.isSealed = allocator.isSealed := by
  induction rest generalizing allocator with
  | nil => exact ⟨placed, rfl⟩
  | cons region rest hypothesis =>
    have found : layout.regions[allocator.regionIndex]? = some region := by
      rw [← head?_drop, ahead, head?_cons]
    have next : layout.regions.drop (allocator.regionIndex + 1) = rest := by
      rw [← tail_drop, ahead, tail_cons]
    have pages : handed ++ (region.pages ++ rest.flatMap Region.pages) = usablePages layout := by
      rw [← placed.pages, remainingPages]
      simp only [checkpoint, exhausted, pagesBetween_of_le le_rfl, nil_append, ahead, flatMap_cons]
    have pass (bare : region.Bare) :
        Placed layout { allocator with regionIndex := allocator.regionIndex + 1 }.checkpoint handed := by
      refine ⟨?_, placed.counted, placed.frame, placed.full, placed.ordered, placed.regionEnd,
        placed.whole, placed.small, fun _ => ⟨region, Nat.succ_pos _, found, .inl ⟨bare, exhausted⟩⟩⟩
      rw [← pages, bare.pages, nil_append, remainingPages]
      simp only [checkpoint, exhausted, pagesBetween_of_le le_rfl, nil_append, next]
    unfold scanRegions
    dsimp only
    split
    · rename_i other
      exact hypothesis next (pass (.inl other)) exhausted
    · rename_i usable
      split
      · rename_i none
        exact hypothesis next (pass (.inr none)) exhausted
      · rename_i some
        refine ⟨⟨?_, placed.counted, dvd_start region, dvd_fullEnd region, (not_le.mp some).le,
          (alignBackward_le _).trans (min_le_left _ _), dvd_mul_left _ _,
          (fullEnd_le region).trans_lt (layout.stop_lt region (mem_of_getElem? found)),
          fun _ => ⟨region, Nat.succ_pos _, found, .inr ⟨not_not.mp usable, rfl, le_rfl⟩⟩⟩, rfl⟩
        rw [← pages, remainingPages, Region.pages, if_pos (not_not.mp usable)]
        simp only [checkpoint, next]

theorem loadNextRegion_placed (placed : Placed layout allocator.checkpoint handed) (limit : Nat) :
    Placed layout (allocator.loadNextRegion layout limit).2.checkpoint handed ∧
      (allocator.loadNextRegion layout limit).2.isSealed = allocator.isSealed := by
  unfold loadNextRegion
  dsimp only
  split
  · split
    · refine ⟨⟨placed.pages, placed.counted, placed.frame, placed.full, placed.ordered,
        (alignBackward_le _).trans (min_le_left _ _), dvd_mul_left _ _, placed.small,
        fun loaded => ?_⟩, rfl⟩
      obtain ⟨region, behind, found, part⟩ := placed.current loaded
      exact ⟨region, behind, found, part⟩
    · exact ⟨placed, rfl⟩
  · rename_i exhausted
    exact scanRegions_placed rfl placed (placed.ordered.antisymm (not_lt.mp exhausted))

/-- The outcome of a request: nothing, or so many pages below the limit. -/
inductive Took (layout : Layout) (count limit : Nat) (handed : List Nat) (before : FrameAllocator) :
    Option Nat × FrameAllocator → Prop where
  | nothing {after : FrameAllocator} (placed : Placed layout after.checkpoint handed)
      (same : after.isSealed = before.isSealed) : Took layout count limit handed before (none, after)
  | pages {base : Nat} {after : FrameAllocator}
      (placed : Placed layout after.checkpoint
        (handed ++ pagesBetween base (base + count * pageBytes)))
      (below : base + count * pageBytes ≤ limit) (same : after.isSealed = before.isSealed) :
      Took layout count limit handed before (some base, after)

/-- Moving the cursor over pages of the current region hands them out. -/
theorem take_placed (placed : Placed layout allocator.checkpoint handed) {count : Nat}
    (room : allocator.currentFrame + count * pageBytes ≤ allocator.currentRegionEnd)
    (loaded : allocator.currentRegionFullEnd ≠ 0) :
    Placed layout { allocator with
        currentFrame := allocator.currentFrame + count * pageBytes
        allocatedPages := allocator.allocatedPages + count }.checkpoint
      (handed ++ pagesBetween allocator.currentFrame (allocator.currentFrame + count * pageBytes)) := by
  have inside := room.trans placed.regionEnd
  refine ⟨?_, ?_, dvd_add placed.frame (dvd_mul_left _ _), placed.full, inside, placed.regionEnd,
    placed.whole, placed.small, fun _ => ?_⟩
  · have cut := pagesBetween_append (Nat.le_add_right allocator.currentFrame (count * pageBytes)) inside
      (by rw [Nat.add_sub_cancel_left]; exact dvd_mul_left _ _)
    rw [← placed.pages, remainingPages, remainingPages, append_assoc, ← append_assoc _ _
      (List.flatMap _ _)]
    exact congrArg (fun pages => handed ++ (pages ++ _)) cut.symm
  · have counted := placed.counted
    rw [length_append, pagesBetween_length, Nat.add_sub_cancel_left, Nat.mul_div_cancel _ (by decide),
      ← counted]
    rfl
  · obtain ⟨region, behind, found, part⟩ := placed.current loaded
    refine ⟨region, behind, found, ?_⟩
    rcases part with ⟨bare, exhausted⟩ | ⟨usable, stop, start⟩
    · -- The region was used up: nothing more can have been taken from it.
      have same : allocator.currentFrame + count * pageBytes = allocator.currentRegionFullEnd :=
        inside.antisymm (exhausted ▸ Nat.le_add_right _ _)
      exact .inl ⟨bare, same⟩
    · exact .inr ⟨usable, stop, start.trans (Nat.le_add_right _ _)⟩

/-- A cursor in front of the end of the region has a whole page in front of it. -/
theorem page_fits (placed : Placed layout allocator.checkpoint handed)
    (inside : allocator.currentFrame < allocator.currentRegionEnd) :
    allocator.currentFrame + pageBytes ≤ allocator.currentRegionEnd := by
  obtain ⟨first, start⟩ := placed.frame
  obtain ⟨last, stop⟩ := placed.whole
  change allocator.currentFrame = _ at start
  change allocator.currentRegionEnd = _ at stop
  unfold pageBytes at start stop ⊢
  omega

theorem loaded_of_inside (placed : Placed layout allocator.checkpoint handed)
    (inside : allocator.currentFrame < allocator.currentRegionEnd) :
    allocator.currentRegionFullEnd ≠ 0 := by
  have bounded : allocator.currentRegionEnd ≤ allocator.currentRegionFullEnd := placed.regionEnd
  omega

variable {rounds : Nat} {result : Option Nat × FrameAllocator}

theorem allocateBelowLoop_took (enough : pageBytes ≤ limit)
    (placed : Placed layout allocator.checkpoint handed)
    (returns : allocateBelowLoop layout limit rounds allocator = some result) :
    Took layout 1 limit handed allocator result := by
  induction rounds generalizing allocator with
  | zero => cases returns
  | succ rounds hypothesis =>
    unfold allocateBelowLoop at returns
    split at returns
    · rename_i room
      cases returns
      have taken := @take_placed _ _ _ placed 1 (by rw [Nat.one_mul]; exact page_fits placed room.1)
        (loaded_of_inside placed room.1)
      rw [Nat.one_mul] at taken
      refine .pages (by rwa [Nat.one_mul]) ?_ rfl
      rw [Nat.one_mul]
      have limited := room.2
      omega
    · have loads := loadNextRegion_placed placed limit
      split at returns
      · rename_i loaded missed
        cases returns
        rw [missed] at loads
        exact .nothing loads.1 loads.2
      · rename_i loaded found
        rw [found] at loads
        cases hypothesis loads.1 returns with
        | nothing placed same => exact .nothing placed (same.trans loads.2)
        | pages placed below same => exact .pages placed below (same.trans loads.2)

variable {count : Nat}

theorem allocateContiguousLoop_took (enough : byteCount count ≤ limit)
    (placed : Placed layout allocator.checkpoint handed)
    (returns : allocateContiguousLoop layout count limit rounds allocator = some result) :
    Took layout count limit handed allocator result := by
  induction rounds generalizing allocator with
  | zero => cases returns
  | succ rounds hypothesis =>
    unfold allocateContiguousLoop at returns
    split at returns
    · rename_i room
      cases returns
      obtain ⟨inside, fits, limited⟩ := room
      -- The region ends below the largest number, so the size did not saturate.
      have unsaturated : byteCount count = count * pageBytes := by
        have small : allocator.currentRegionFullEnd < 2 ^ 64 := placed.small
        have bounded : allocator.currentRegionEnd ≤ allocator.currentRegionFullEnd := placed.regionEnd
        obtain ⟨last, stop⟩ := placed.whole
        change allocator.currentRegionEnd = _ at stop
        unfold byteCount pageBytes at *
        omega
      rw [unsaturated] at fits limited enough ⊢
      exact .pages (take_placed placed (by omega) (loaded_of_inside placed inside)) (by omega) rfl
    · have loads := loadNextRegion_placed placed limit
      split at returns
      · rename_i loaded missed
        cases returns
        rw [missed] at loads
        exact .nothing loads.1 loads.2
      · rename_i loaded found
        rw [found] at loads
        cases hypothesis loads.1 returns with
        | nothing placed same => exact .nothing placed (same.trans loads.2)
        | pages placed below same => exact .pages placed below (same.trans loads.2)

theorem allocateBelow_took (placed : Placed layout allocator.checkpoint handed)
    (returns : allocator.allocateBelow layout limit rounds = some result) :
    Took layout 1 limit handed allocator result := by
  unfold allocateBelow at returns
  split at returns
  · cases returns
    exact .nothing placed rfl
  · rename_i proper
    exact allocateBelowLoop_took (not_lt.mp (not_or.mp proper).2) placed returns

theorem allocate_took (placed : Placed layout allocator.checkpoint handed)
    (returns : allocator.allocate layout rounds = some result) :
    Took layout 1 maximumLimit handed allocator result := by
  unfold allocate at returns
  split at returns
  · cases returns
    exact .nothing placed rfl
  · exact allocateBelow_took placed returns

theorem allocateContiguousBelow_took (placed : Placed layout allocator.checkpoint handed)
    (returns : allocator.allocateContiguousBelow layout count limit rounds = some result) :
    Took layout count limit handed allocator result := by
  unfold allocateContiguousBelow at returns
  split at returns
  · cases returns
    exact .nothing placed rfl
  split at returns
  · cases returns
    exact .nothing placed rfl
  · rename_i proper
    exact allocateContiguousLoop_took (not_lt.mp (not_or.mp proper).2) placed returns

/-! ### Which requests return -/

theorem scanRegions_ready {limit : Nat} {rest : List Region}
    (found : (scanRegions limit rest allocator).1 = true) :
    (scanRegions limit rest allocator).2.currentFrame <
        (scanRegions limit rest allocator).2.currentRegionEnd ∧
      (scanRegions limit rest allocator).2.currentRegionEnd ≤ limit := by
  induction rest generalizing allocator with
  | nil => cases found
  | cons region rest hypothesis =>
    unfold scanRegions at found ⊢
    dsimp only at found ⊢
    split at found
    · rename_i other
      rw [if_pos other]
      exact hypothesis found
    · rename_i usable
      rw [if_neg usable]
      split at found
      · rename_i none
        rw [if_pos none]
        exact hypothesis found
      · rename_i some
        rw [if_neg some]
        exact ⟨of_decide_eq_true found, (alignBackward_le _).trans (min_le_right _ _)⟩

theorem loadNextRegion_ready {loaded : FrameAllocator}
    (found : allocator.loadNextRegion layout limit = (true, loaded)) :
    loaded.currentFrame < loaded.currentRegionEnd ∧ loaded.currentRegionEnd ≤ limit := by
  unfold loadNextRegion at found
  dsimp only at found
  split at found
  · split at found
    · rename_i inside
      obtain rfl := (Prod.mk.inj found).2
      exact ⟨inside, (alignBackward_le _).trans (min_le_right _ _)⟩
    · cases (Prod.mk.inj found).1
  · have ready := @scanRegions_ready allocator limit (layout.regions.drop allocator.regionIndex)
    rw [found] at ready
    exact ready rfl

/-- A request for one page always returns: a region that was loaded has a page below the limit. -/
theorem allocateBelow_returns (placed : Placed layout allocator.checkpoint handed) (limit : Nat) :
    ∃ result, allocator.allocateBelow layout limit 2 = some result := by
  unfold allocateBelow
  split
  · exact ⟨_, rfl⟩
  unfold allocateBelowLoop
  split
  · exact ⟨_, rfl⟩
  split
  · exact ⟨_, rfl⟩
  · rename_i loaded found
    have loads := loadNextRegion_placed placed limit
    obtain ⟨inside, below⟩ := loadNextRegion_ready found
    rw [found] at loads
    have fits : loaded.currentFrame + pageBytes ≤ loaded.currentRegionEnd := page_fits loads.1 inside
    unfold allocateBelowLoop
    rw [if_pos ⟨inside, by omega⟩]
    exact ⟨_, rfl⟩

/-- A request for more contiguous pages than the current region has below the limit never returns:
the region is loaded again and again. -/
theorem allocateContiguousLoop_hangs
    (inside : allocator.currentFrame < allocator.currentRegionFullEnd)
    (loaded : allocator.currentRegionEnd = alignBackward (min allocator.currentRegionFullEnd limit))
    (some : allocator.currentFrame < allocator.currentRegionEnd)
    (tooFew : allocator.currentRegionEnd - allocator.currentFrame < byteCount count)
    (rounds : Nat) : allocateContiguousLoop layout count limit rounds allocator = none := by
  induction rounds with
  | zero => rfl
  | succ rounds hypothesis =>
    have again : allocator.loadNextRegion layout limit = (true, allocator) := by
      unfold loadNextRegion
      rw [if_pos inside, ← loaded]
      exact if_pos some
    unfold allocateContiguousLoop
    rwa [if_neg fun room => absurd room.2.1 (not_le.mpr tooFew), again]

end FrameAllocator

/-! ### Runs at boot -/

/-- A page that was handed out, with the limit of the request. -/
structure Grant where
  page : Nat
  limit : Nat
  deriving DecidableEq, Repr

/-- A checkpoint with the pages that were held when it was taken. -/
structure Saved where
  checkpoint : Checkpoint
  held : List Nat

/-- The allocator with the pages that are handed out, and the checkpoints taken so far. -/
structure Boot where
  allocator : FrameAllocator := {}
  held : List Grant := []
  saved : List Saved := []

namespace Boot

def heldPages (boot : Boot) : List Nat := boot.held.map Grant.page

/-- What a request returned is held from now on. -/
def grant (boot : Boot) (count limit : Nat) : Option Nat × FrameAllocator → Boot
  | (none, allocator) => { boot with allocator }
  | (some base, allocator) =>
    { boot with
      allocator
      held := boot.held ++ (pagesBetween base (base + count * pageBytes)).map (⟨·, limit⟩) }

/-- Restoring gives back every page that was not held when the checkpoint was taken. -/
def restore (boot : Boot) (layout : Layout) (saved : Saved) : Boot :=
  match boot.allocator.restore layout saved.checkpoint with
  | none => boot
  | some allocator =>
    { boot with allocator, held := boot.held.filter fun grant => grant.page ∈ saved.held }

/-- Requests that return, checkpoints, and restoring any checkpoint taken before. -/
inductive Step (layout : Layout) (boot : Boot) : Boot → Prop where
  | allocate {rounds : Nat} {result : Option Nat × FrameAllocator}
      (returns : boot.allocator.allocate layout rounds = some result) :
      Step layout boot (boot.grant 1 FrameAllocator.maximumLimit result)
  | allocateBelow (limit : Nat) {rounds : Nat} {result : Option Nat × FrameAllocator}
      (returns : boot.allocator.allocateBelow layout limit rounds = some result) :
      Step layout boot (boot.grant 1 limit result)
  | allocateContiguousBelow (pageCount limit : Nat) {rounds : Nat}
      {result : Option Nat × FrameAllocator}
      (returns : boot.allocator.allocateContiguousBelow layout pageCount limit rounds = some result) :
      Step layout boot (boot.grant pageCount limit result)
  | checkpoint : Step layout boot
      { boot with saved := boot.saved ++ [⟨boot.allocator.checkpoint, boot.heldPages⟩] }
  | restore (saved : Saved) (taken : saved ∈ boot.saved) : Step layout boot (boot.restore layout saved)

inductive Run (layout : Layout) : Boot → Prop where
  | start : Run layout {}
  | step {boot after : Boot} (run : Run layout boot) (step : Step layout boot after) : Run layout after

/-- The allocator stands behind the pages that are held, and every checkpoint behind those that
were held when it was taken. -/
structure Sound (layout : Layout) (boot : Boot) : Prop where
  placed : Placed layout boot.allocator.checkpoint boot.heldPages
  saved : ∀ saved ∈ boot.saved, Placed layout saved.checkpoint saved.held
  limits : ∀ grant ∈ boot.held, grant.page + pageBytes ≤ grant.limit
  unsealed : boot.allocator.isSealed = false

variable {layout : Layout} {boot : Boot}

theorem Sound.grant (sound : Sound layout boot) {count limit : Nat}
    {result : Option Nat × FrameAllocator}
    (took : FrameAllocator.Took layout count limit boot.heldPages boot.allocator result) :
    Sound layout (boot.grant count limit result) := by
  cases took with
  | nothing placed same => exact ⟨placed, sound.saved, sound.limits, same.trans sound.unsealed⟩
  | @pages base after placed below same =>
    refine ⟨?_, sound.saved, fun grant member => ?_, same.trans sound.unsealed⟩
    · have held : (boot.grant count limit (some base, after)).heldPages =
          boot.heldPages ++ pagesBetween base (base + count * pageBytes) := by
        unfold heldPages Boot.grant
        rw [map_append, map_map]
        exact congrArg (_ ++ ·) (map_id _)
      rwa [held]
    · rcases mem_append.mp member with old | new
      · exact sound.limits grant old
      · obtain ⟨page, inBlock, rfl⟩ := mem_map.mp new
        obtain ⟨index, few, rfl⟩ := mem_map.mp inBlock
        rw [Nat.add_sub_cancel_left, Nat.mul_div_cancel _ (by decide), mem_range] at few
        have room : (index + 1) * pageBytes ≤ count * pageBytes := Nat.mul_le_mul_right _ few
        rw [Nat.succ_mul] at room
        change base + index * pageBytes + pageBytes ≤ limit
        omega

/-- What a restore puts back, and when. -/
theorem restore_some {allocator after : FrameAllocator} {saved : Checkpoint}
    (restored : allocator.restore layout saved = some after) :
    saved.allocatedPages ≤ allocator.allocatedPages ∧ after.checkpoint = saved ∧
      after.isSealed = allocator.isSealed := by
  unfold FrameAllocator.restore at restored
  split at restored
  · cases restored
  · rename_i behind
    split_ifs at restored
    cases restored
    exact ⟨not_lt.mp (not_or.mp behind).2, rfl, rfl⟩

/-- Of two ways to cut a list, the shorter front begins the longer one. -/
theorem front_of_cuts {first second firstRest secondRest whole : List Nat}
    (one : first ++ firstRest = whole) (two : second ++ secondRest = whole)
    (shorter : first.length ≤ second.length) : ∃ extra, second = first ++ extra := by
  obtain ⟨extra, split⟩ := prefix_of_prefix_length_le
    (one ▸ prefix_append first firstRest) (two ▸ prefix_append second secondRest) shorter
  exact ⟨extra, split.symm⟩

theorem Sound.restore (sound : Sound layout boot) {saved : Saved}
    (taken : saved ∈ boot.saved) : Sound layout (boot.restore layout saved) := by
  unfold Boot.restore
  split
  · exact sound
  · rename_i allocator restored
    obtain ⟨behind, same, unsealed⟩ := restore_some restored
    have earlier := sound.saved saved taken
    have shorter : saved.held.length ≤ boot.heldPages.length := by
      rwa [← earlier.counted, ← sound.placed.counted]
    obtain ⟨extra, split⟩ := front_of_cuts earlier.pages sound.placed.pages shorter
    have distinct : (saved.held ++ extra).Nodup := by
      refine ((usablePages_nodup layout).sublist ?_)
      rw [← sound.placed.pages, split]
      exact sublist_append_left _ _
    have kept : (boot.held.filter fun grant => grant.page ∈ saved.held).map Grant.page =
        saved.held := by
      have filtered : boot.heldPages.filter (fun page => page ∈ saved.held) =
          (boot.held.filter fun grant => grant.page ∈ saved.held).map Grant.page := filter_map
      rw [← filtered, split, filter_append, filter_eq_self.mpr fun page member => decide_eq_true member,
        filter_eq_nil_iff.mpr fun page member isHeld =>
          (disjoint_of_nodup_append distinct) (of_decide_eq_true isHeld) member,
        append_nil]
    refine ⟨?_, sound.saved, fun grant member => ?_, unsealed.trans sound.unsealed⟩
    · change Placed layout allocator.checkpoint (List.map Grant.page _)
      rwa [kept, same]
    · exact sound.limits grant (mem_of_mem_filter member)

theorem Sound.step {layout : Layout} {boot after : Boot} (sound : Sound layout boot)
    (step : Step layout boot after) : Sound layout after := by
  cases step with
  | allocate returns => exact sound.grant (FrameAllocator.allocate_took sound.placed returns)
  | allocateBelow limit returns =>
    exact sound.grant (FrameAllocator.allocateBelow_took sound.placed returns)
  | allocateContiguousBelow pageCount limit returns =>
    exact sound.grant (FrameAllocator.allocateContiguousBelow_took sound.placed returns)
  | checkpoint =>
    refine ⟨sound.placed, fun saved member => ?_, sound.limits, sound.unsealed⟩
    rcases mem_append.mp member with old | new
    · exact sound.saved saved old
    · rw [mem_singleton.mp new]
      exact sound.placed
  | restore saved taken => exact sound.restore taken

theorem Run.sound (run : Run layout boot) : Sound layout boot := by
  induction run with
  | start =>
    refine ⟨⟨?_, rfl, dvd_zero _, dvd_zero _, le_rfl, le_rfl, dvd_zero _, by decide,
      fun loaded => absurd rfl loaded⟩, nofun, nofun, rfl⟩
    rfl
  | step run step hypothesis => exact hypothesis.step step

end Boot

end ZigOs.Memory
