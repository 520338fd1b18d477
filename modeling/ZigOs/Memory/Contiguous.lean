/-
This file proves which requests to the boot allocator return. A request comes
to what the current region has left, or to the next usable region when nothing
is left. It is answered when that extent has no page below the limit, or enough
of them; otherwise the same extent is loaded again and again. What a request
returns lies in one usable region and was not held before.
-/

import ZigOs.Memory.HandOver

namespace ZigOs.Memory

open Extents RuntimePagePool List

/-- The end of the whole pages of an extent that lie below a limit. -/
def visibleEnd (extent : Extent) (limit : Nat) : Nat := alignBackward (min extent.stop limit)

/-- A region that has a page to hand out. -/
def Region.offers (region : Region) : Bool :=
  decide (region.kind = .usable ∧ region.start < region.fullEnd)

theorem le_alignBackward {value bound : Nat} (aligned : pageBytes ∣ value) (below : value ≤ bound) :
    value ≤ alignBackward bound := by
  rw [← Nat.div_mul_cancel aligned]
  exact Nat.mul_le_mul_right _ (Nat.div_le_div_right below)

namespace FrameAllocator

variable {layout : Layout} {allocator after loaded : FrameAllocator} {handed : List Nat}
  {count limit rounds base : Nat} {extent : Extent}

/-- What a request comes to: the rest of the current region, or else the next region that has a
page. -/
def upcoming (allocator : FrameAllocator) (layout : Layout) : Option Extent :=
  if allocator.currentFrame < allocator.currentRegionFullEnd then
    some ⟨allocator.currentFrame, allocator.currentRegionFullEnd⟩
  else ((layout.regions.drop allocator.regionIndex).find? Region.offers).map fun region =>
    ⟨region.start, region.fullEnd⟩

/-! ### Loading -/

theorem scanRegions_found {rest : List Region} {region : Region}
    (found : rest.find? Region.offers = some region) :
    ∃ index, scanRegions limit rest allocator =
      (decide (region.start < visibleEnd ⟨region.start, region.fullEnd⟩ limit), { allocator with
          regionIndex := index
          currentFrame := region.start
          currentRegionFullEnd := region.fullEnd
          currentRegionEnd := visibleEnd ⟨region.start, region.fullEnd⟩ limit }) := by
  induction rest generalizing allocator with
  | nil => cases found
  | cons first rest hypothesis =>
    unfold scanRegions
    dsimp only
    rw [find?_cons] at found
    split at found
    · rename_i offers
      cases found
      obtain ⟨usable, whole⟩ := of_decide_eq_true offers
      rw [if_neg (not_not.mpr usable), if_neg (not_le.mpr whole)]
      exact ⟨_, rfl⟩
    · rename_i bare
      have skipped := of_decide_eq_false bare
      split
      · exact hypothesis found
      · rename_i usable
        rw [if_pos (not_lt.mp fun whole => skipped ⟨not_not.mp usable, whole⟩)]
        exact hypothesis found

theorem scanRegions_missed {rest : List Region} (missed : rest.find? Region.offers = none) :
    (scanRegions limit rest allocator).1 = false := by
  induction rest generalizing allocator with
  | nil => rfl
  | cons first rest hypothesis =>
    rw [find?_cons] at missed
    split at missed
    · cases missed
    · rename_i bare
      have skipped := of_decide_eq_false bare
      unfold scanRegions
      dsimp only
      split
      · exact hypothesis missed
      · rename_i usable
        rw [if_pos (not_lt.mp fun whole => skipped ⟨not_not.mp usable, whole⟩)]
        exact hypothesis missed

theorem loadNextRegion_missed (nothing : allocator.upcoming layout = none) :
    (allocator.loadNextRegion layout limit).1 = false := by
  unfold upcoming at nothing
  split at nothing
  · cases nothing
  · rename_i exhausted
    rw [loadNextRegion, if_neg exhausted]
    exact scanRegions_missed (Option.map_eq_none_iff.mp nothing)

/-- An extent with a page below the limit becomes the current one, up to the limit. -/
theorem loadNextRegion_upcoming (next : allocator.upcoming layout = some extent) :
    ((allocator.loadNextRegion layout limit).1 = true ↔ extent.base < visibleEnd extent limit) ∧
      (extent.base < visibleEnd extent limit →
        (allocator.loadNextRegion layout limit).2.currentFrame = extent.base ∧
        (allocator.loadNextRegion layout limit).2.currentRegionFullEnd = extent.stop ∧
        (allocator.loadNextRegion layout limit).2.currentRegionEnd = visibleEnd extent limit) := by
  unfold upcoming at next
  unfold loadNextRegion
  split at next
  · rename_i inside
    cases next
    rw [if_pos inside]
    dsimp only [visibleEnd]
    split
    · rename_i visible
      exact ⟨iff_of_true rfl visible, fun _ => ⟨rfl, rfl, rfl⟩⟩
    · rename_i hidden
      exact ⟨iff_of_false nofun hidden, fun visible => absurd visible hidden⟩
  · rename_i exhausted
    obtain ⟨region, found, rfl⟩ := Option.map_eq_some_iff.mp next
    obtain ⟨index, loads⟩ := @scanRegions_found allocator limit _ region found
    rw [if_neg exhausted, loads]
    exact ⟨decide_eq_true_iff, fun _ => ⟨rfl, rfl, rfl⟩⟩

/-! ### One request -/

/-- The current region has the pages of a request, as far as it is visible. -/
def Fits (allocator : FrameAllocator) (count limit : Nat) : Prop :=
  allocator.currentFrame < allocator.currentRegionEnd ∧
    byteCount count ≤ allocator.currentRegionEnd - allocator.currentFrame ∧
    allocator.currentFrame ≤ limit - byteCount count

theorem allocateContiguousLoop_fits (fits : allocator.Fits count limit) :
    allocateContiguousLoop layout count limit (rounds + 1) allocator =
      some (some allocator.currentFrame, { allocator with
        currentFrame := allocator.currentFrame + byteCount count
        allocatedPages := allocator.allocatedPages + count }) :=
  if_pos fits

theorem allocateContiguousLoop_loads (tooLarge : ¬ allocator.Fits count limit) :
    allocateContiguousLoop layout count limit (rounds + 1) allocator =
      match allocator.loadNextRegion layout limit with
      | (false, loaded) => some (none, loaded)
      | (true, loaded) => allocateContiguousLoop layout count limit rounds loaded :=
  if_neg tooLarge

/-- A request that fits did not saturate, and it ends where the current region is still visible. -/
theorem Fits.room (fits : allocator.Fits count limit) (enough : byteCount count ≤ limit)
    (placed : Placed layout allocator.checkpoint handed) :
    byteCount count = count * pageBytes ∧ allocator.currentFrame + count * pageBytes ≤
        visibleEnd ⟨allocator.currentFrame, allocator.currentRegionFullEnd⟩ limit := by
  obtain ⟨inside, room, limited⟩ := fits
  have small : allocator.currentRegionFullEnd < 2 ^ 64 := placed.small
  have bounded : allocator.currentRegionEnd ≤ allocator.currentRegionFullEnd := placed.regionEnd
  have unsaturated : byteCount count = count * pageBytes := by
    obtain ⟨last, stop⟩ := placed.whole
    change allocator.currentRegionEnd = _ at stop
    unfold byteCount pageBytes at *
    omega
  rw [unsaturated] at room limited enough
  refine ⟨unsaturated, le_alignBackward (dvd_add placed.frame (dvd_mul_left _ _)) (le_min ?_ ?_)⟩
  · change allocator.currentFrame + _ ≤ allocator.currentRegionFullEnd
    omega
  · omega

theorem Fits.upcoming (fits : allocator.Fits count limit)
    (placed : Placed layout allocator.checkpoint handed) :
    allocator.upcoming layout = some ⟨allocator.currentFrame, allocator.currentRegionFullEnd⟩ :=
  if_pos (fits.1.trans_le placed.regionEnd)

/-- After an extent was loaded, the request fits at its base or goes round forever. -/
theorem allocateContiguousLoop_loaded (enough : byteCount count ≤ limit)
    (next : allocator.upcoming layout = some extent)
    (loads : allocator.loadNextRegion layout limit = (true, loaded)) :
    extent.base < visibleEnd extent limit ∧ loaded.currentFrame = extent.base ∧
      (loaded.Fits count limit ↔ byteCount count ≤ visibleEnd extent limit - extent.base) ∧
      (¬ loaded.Fits count limit →
        allocateContiguousLoop layout count limit rounds loaded = none) := by
  obtain ⟨visible_iff, fields⟩ := @loadNextRegion_upcoming layout allocator limit extent next
  rw [loads] at visible_iff fields
  have visible := visible_iff.mp rfl
  obtain ⟨frame, full, regionEnd⟩ := fields visible
  have bounds : visibleEnd extent limit ≤ min extent.stop limit := alignBackward_le _
  have fits_iff : loaded.Fits count limit ↔
      byteCount count ≤ visibleEnd extent limit - extent.base := by
    unfold Fits
    rw [frame, regionEnd]
    constructor
    · exact fun fits => fits.2.1
    · intro room
      exact ⟨visible, room, by omega⟩
  refine ⟨visible, frame, fits_iff, fun tooLarge => ?_⟩
  refine allocateContiguousLoop_hangs ?_ ?_ ?_ ?_ rounds
  · rw [frame, full]
    omega
  · rw [regionEnd, full]
    rfl
  · rwa [frame, regionEnd]
  · rw [frame, regionEnd]
    exact not_le.mp fun room => tooLarge (fits_iff.mpr room)

/-- The extent that a request comes to has no page below the limit, or has enough of them. -/
def Answered (allocator : FrameAllocator) (layout : Layout) (count limit : Nat) : Prop :=
  ∀ extent, allocator.upcoming layout = some extent → visibleEnd extent limit ≤ extent.base ∨
      byteCount count ≤ visibleEnd extent limit - extent.base

theorem allocateContiguousLoop_returns_iff (enough : byteCount count ≤ limit)
    (placed : Placed layout allocator.checkpoint handed) :
    (∃ rounds result, allocateContiguousLoop layout count limit rounds allocator = some result) ↔
      allocator.Answered layout count limit := by
  by_cases fits : allocator.Fits count limit
  · obtain ⟨unsaturated, room⟩ := fits.room enough placed
    refine iff_of_true ⟨1, _, if_pos fits⟩ fun extent next => .inr ?_
    cases (fits.upcoming placed).symm.trans next
    rw [unsaturated]
    exact Nat.le_sub_of_add_le' room
  · rcases loads : allocator.loadNextRegion layout limit with ⟨found, loaded⟩
    cases found with
    | false =>
      refine iff_of_true ⟨1, (none, loaded), ?_⟩ fun extent next => .inl ?_
      · rw [allocateContiguousLoop_loads fits, loads]
      · obtain ⟨visible_iff, -⟩ := @loadNextRegion_upcoming layout allocator limit extent next
        rw [loads] at visible_iff
        exact not_lt.mp fun visible => Bool.false_ne_true (visible_iff.mpr visible)
    | true =>
      rcases next : allocator.upcoming layout with _ | extent
      · have missed := @loadNextRegion_missed layout allocator limit next
        rw [loads] at missed
        cases missed
      · obtain ⟨visible, frame, fits_iff, -⟩ :=
          @allocateContiguousLoop_loaded layout allocator loaded count limit 0 extent enough next loads
        constructor
        · rintro ⟨rounds, result, returns⟩ other isNext
          cases (next.symm.trans isNext)
          by_contra neither
          rw [not_or] at neither
          cases rounds with
          | zero => cases returns
          | succ rounds =>
            rw [allocateContiguousLoop_loads fits, loads] at returns
            obtain ⟨-, -, -, hangs⟩ := @allocateContiguousLoop_loaded layout allocator loaded count
              limit rounds extent enough next loads
            cases (hangs fun fitsNow => neither.2 (fits_iff.mp fitsNow)).symm.trans returns
        · intro answered
          have room := (answered extent next).resolve_left (not_le.mpr visible)
          have first : allocateContiguousLoop layout count limit 2 allocator =
              allocateContiguousLoop layout count limit 1 loaded := by
            rw [allocateContiguousLoop_loads fits, loads]
          exact ⟨2, _, first.trans (allocateContiguousLoop_fits (fits_iff.mpr room))⟩

/-- What a request returns is the front of the extent that it came to. -/
theorem allocateContiguousLoop_base (enough : byteCount count ≤ limit)
    (placed : Placed layout allocator.checkpoint handed)
    (returns : allocateContiguousLoop layout count limit rounds allocator = some (some base, after)) :
    ∃ stop, allocator.upcoming layout = some ⟨base, stop⟩ ∧
      base + count * pageBytes ≤ visibleEnd ⟨base, stop⟩ limit := by
  cases rounds with
  | zero => cases returns
  | succ rounds =>
    by_cases fits : allocator.Fits count limit
    · rw [allocateContiguousLoop_fits fits] at returns
      cases congrArg Prod.fst (Option.some.inj returns)
      exact ⟨_, fits.upcoming placed, (fits.room enough placed).2⟩
    · rw [allocateContiguousLoop_loads fits] at returns
      rcases loads : allocator.loadNextRegion layout limit with ⟨found, loaded⟩
      rw [loads] at returns
      cases found with
      | false => cases congrArg Prod.fst (Option.some.inj returns)
      | true =>
        rcases next : allocator.upcoming layout with _ | extent
        · have missed := @loadNextRegion_missed layout allocator limit next
          rw [loads] at missed
          cases missed
        · obtain ⟨visible, frame, fits_iff, hangs⟩ :=
            @allocateContiguousLoop_loaded layout allocator loaded count limit rounds extent enough
              next loads
          have fitsNow : loaded.Fits count limit := by
            by_contra tooLarge
            cases (hangs tooLarge).symm.trans returns
          have placedNow : Placed layout loaded.checkpoint handed := by
            have moved := (loadNextRegion_placed placed limit).1
            rwa [loads] at moved
          cases rounds with
          | zero => cases returns
          | succ rounds =>
            have result : some (some loaded.currentFrame, _) = some (some base, after) :=
              (allocateContiguousLoop_fits fitsNow).symm.trans returns
            cases congrArg Prod.fst (Option.some.inj result)
            have room := fits_iff.mp fitsNow
            rw [(fitsNow.room enough placedNow).1] at room
            rw [frame]
            exact ⟨extent.stop, rfl, by
              change extent.base + _ ≤ visibleEnd extent limit
              omega⟩

/-- Where an upcoming extent lies: at the end of the current region, or in a later one. -/
theorem upcoming_region (placed : Placed layout allocator.checkpoint handed)
    (next : allocator.upcoming layout = some extent) :
    ∃ region ∈ layout.regions, region.kind = .usable ∧ region.start ≤ extent.base ∧
      region.fullEnd = extent.stop ∧ pageBytes ∣ extent.base ∧ extent.base < extent.stop ∧
      ((extent.base = allocator.currentFrame ∧ extent.stop = allocator.currentRegionFullEnd) ∨
        region ∈ layout.regions.drop allocator.regionIndex) := by
  unfold upcoming at next
  split at next
  · rename_i inside
    cases next
    have loaded : allocator.currentRegionFullEnd ≠ 0 := Nat.ne_of_gt (Nat.zero_lt_of_lt inside)
    obtain ⟨region, -, found, part⟩ := placed.current loaded
    have member : region ∈ layout.regions := mem_of_getElem? found
    rcases part with ⟨-, exhausted⟩ | ⟨usable, stop, start⟩
    · exact absurd exhausted (Nat.ne_of_lt inside)
    · exact ⟨region, member, usable, start, stop, placed.frame, inside, .inl ⟨rfl, rfl⟩⟩
  · obtain ⟨region, found, rfl⟩ := Option.map_eq_some_iff.mp next
    have offers : region.offers = true := find?_some found
    obtain ⟨usable, whole⟩ := of_decide_eq_true offers
    have later := mem_of_find?_eq_some found
    exact ⟨region, mem_of_mem_drop later, usable, le_rfl, rfl, dvd_start region, whole,
      .inr later⟩

/-- Pages that a request may return: aligned, in one usable region, below the limit, not held
before, and in a later region when the current one has not enough of them. -/
structure Granted (layout : Layout) (allocator : FrameAllocator) (handed : List Nat)
    (count limit base : Nat) : Prop where
  aligned : pageBytes ∣ base
  minimum : minimumAllocatableAddress ≤ base
  below : base + count * pageBytes ≤ limit
  inside : ∃ region ∈ layout.regions, region.kind = .usable ∧ region.base ≤ base ∧
    base + count * pageBytes ≤ region.stop ∧
    (allocator.currentRegionFullEnd < allocator.currentFrame + count * pageBytes →
      region ∈ layout.regions.drop allocator.regionIndex)
  fresh : ∀ page ∈ pagesBetween base (base + count * pageBytes), page ∉ handed

theorem allocateContiguousLoop_granted (enough : byteCount count ≤ limit)
    (placed : Placed layout allocator.checkpoint handed)
    (returns : allocateContiguousLoop layout count limit rounds allocator = some (some base, after)) :
    Granted layout allocator handed count limit base := by
  obtain ⟨stop, next, room⟩ := allocateContiguousLoop_base enough placed returns
  obtain ⟨region, member, usable, start, full, aligned, nonempty, place⟩ := upcoming_region placed next
  dsimp only at start full aligned nonempty place
  have visible : visibleEnd ⟨base, stop⟩ limit ≤ min stop limit := alignBackward_le _
  have taken := allocateContiguousLoop_took enough placed returns
  refine ⟨aligned, (le_max_right _ _).trans start, by omega,
    ⟨region, member, usable, ?_, ?_, fun more => ?_⟩, ?_⟩
  · exact (base_le_start (layout.stop_lt region member) (by omega)).trans start
  · exact (show _ ≤ region.fullEnd by omega).trans (fullEnd_le region)
  · exact place.resolve_left fun current => by omega
  · cases taken with
    | pages placedAfter _ _ =>
      have distinct : (handed ++ pagesBetween base (base + count * pageBytes)).Nodup := by
        refine (usablePages_nodup layout).sublist ?_
        rw [← placedAfter.pages]
        exact sublist_append_left _ _
      exact fun page isNew wasHeld => disjoint_of_nodup_append distinct wasHeld isNew

/-! ### One page -/

/-- A cursor inside a region has a whole page, so a request for one page is one for contiguous
pages. -/
theorem allocateBelowLoop_eq (placed : Placed layout allocator.checkpoint handed) :
    allocateBelowLoop layout limit rounds allocator =
      allocateContiguousLoop layout 1 limit rounds allocator := by
  induction rounds generalizing allocator with
  | zero => rfl
  | succ rounds hypothesis =>
    have one : byteCount 1 = pageBytes := rfl
    unfold allocateBelowLoop allocateContiguousLoop
    rw [one]
    by_cases inside : allocator.currentFrame < allocator.currentRegionEnd
    · have page : pageBytes ≤ allocator.currentRegionEnd - allocator.currentFrame :=
        Nat.le_sub_of_add_le' (page_fits placed inside)
      simp only [inside, page, true_and]
      split
      · rfl
      · split <;> rename_i loads
        · rfl
        · have moved := (loadNextRegion_placed placed limit).1
          rw [loads] at moved
          exact hypothesis moved
    · simp only [inside, false_and, if_false]
      split <;> rename_i loads
      · rfl
      · have moved := (loadNextRegion_placed placed limit).1
        rw [loads] at moved
        exact hypothesis moved

theorem allocateBelow_granted (placed : Placed layout allocator.checkpoint handed)
    (returns : allocator.allocateBelow layout limit rounds = some (some base, after)) :
    Granted layout allocator handed 1 limit base := by
  unfold allocateBelow at returns
  split at returns
  · cases congrArg Prod.fst (Option.some.inj returns)
  · rename_i proper
    have enough : pageBytes ≤ limit := not_lt.mp (not_or.mp proper).2
    rw [allocateBelowLoop_eq placed] at returns
    exact allocateContiguousLoop_granted enough placed returns

theorem allocateContiguousBelow_granted (placed : Placed layout allocator.checkpoint handed)
    (returns : allocator.allocateContiguousBelow layout count limit rounds =
      some (some base, after)) :
    Granted layout allocator handed count limit base := by
  unfold allocateContiguousBelow at returns
  split at returns
  · cases congrArg Prod.fst (Option.some.inj returns)
  split at returns
  · cases congrArg Prod.fst (Option.some.inj returns)
  · rename_i proper
    exact allocateContiguousLoop_granted (not_lt.mp (not_or.mp proper).2) placed returns

theorem allocateContiguousBelow_returns_iff (placed : Placed layout allocator.checkpoint handed) :
    (∃ rounds result, allocator.allocateContiguousBelow layout count limit rounds = some result) ↔
      allocator.isSealed = true ∨ count = 0 ∨ limit < byteCount count ∨
        allocator.Answered layout count limit := by
  unfold allocateContiguousBelow
  by_cases refused : allocator.isSealed = true ∨ count = 0
  · simp only [if_pos refused]
    exact iff_of_true ⟨0, _, rfl⟩ (by tauto)
  · have positive : byteCount count ≠ 0 := by
      have some : count ≠ 0 := (not_or.mp refused).2
      unfold byteCount pageBytes
      omega
    simp only [if_neg refused, positive, false_or]
    by_cases tooLarge : byteCount count > limit
    · simp only [if_pos tooLarge]
      exact iff_of_true ⟨0, _, rfl⟩ (.inr (.inr (.inl tooLarge)))
    · simp only [if_neg tooLarge]
      rw [allocateContiguousLoop_returns_iff (not_lt.mp tooLarge) placed]
      rw [not_or] at refused
      simp only [refused, Bool.false_eq_true, false_or, show ¬ limit < byteCount count from tooLarge]

end FrameAllocator

/-! ### Reachable allocators -/

/-- The allocators that a run at boot leads to, up to the hand-over and after it, each with the
pages that are held. -/
inductive Reached (layout : Layout) : FrameAllocator → List Nat → Prop where
  | boot {boot : Boot} (run : Boot.Run layout boot) : Reached layout boot.allocator boot.heldPages
  | handedOver {boot : Boot} (run : Boot.Run layout boot) (manager : PhysicalMemoryManager) :
    Reached layout (boot.allocator.initializeFromBootstrap layout manager).2.2 boot.heldPages

theorem Reached.placed {layout : Layout} {allocator : FrameAllocator} {handed : List Nat}
    (reached : Reached layout allocator handed) : Placed layout allocator.checkpoint handed := by
  cases reached with
  | boot run => exact run.sound.placed
  | handedOver run manager =>
    unfold FrameAllocator.initializeFromBootstrap
    split
    · exact run.sound.placed
    · dsimp only
      split <;> exact run.sound.placed

/-- Requests to the allocator terminate, and what they return may be returned. -/
structure Serves (layout : Layout) (allocator : FrameAllocator) (handed : List Nat)
    (count limit : Nat) : Prop where
  page_returns : ∃ rounds result, allocator.allocateBelow layout limit rounds = some result
  page : ∀ rounds base after,
    allocator.allocateBelow layout limit rounds = some (some base, after) →
      allocator.Granted layout handed 1 limit base
  contiguous_returns : ∃ rounds result,
    allocator.allocateContiguousBelow layout count limit rounds = some result
  contiguous : ∀ rounds base after,
    allocator.allocateContiguousBelow layout count limit rounds = some (some base, after) →
      allocator.Granted layout handed count limit base

/-- Requests are served unless the extent that the request for contiguous pages comes to has some
pages below the limit, but too few. -/
theorem requests_served_iff {layout : Layout} {allocator : FrameAllocator} {handed : List Nat}
    (reached : Reached layout allocator handed) (count limit : Nat) :
    Serves layout allocator handed count limit ↔
      allocator.isSealed = true ∨ count = 0 ∨ limit < FrameAllocator.byteCount count ∨
        allocator.Answered layout count limit := by
  rw [← FrameAllocator.allocateContiguousBelow_returns_iff reached.placed]
  refine ⟨Serves.contiguous_returns, fun returns => ⟨⟨2, ?_⟩, ?_, returns, ?_⟩⟩
  · exact FrameAllocator.allocateBelow_returns reached.placed limit
  · exact fun rounds base after => FrameAllocator.allocateBelow_granted reached.placed
  · exact fun rounds base after => FrameAllocator.allocateContiguousBelow_granted reached.placed

/-! ### A request between two regions -/

/-- A region of one page in front of a region of 256 pages. -/
def narrowLayout : Layout where
  regions := [⟨0x100000, 0x101000, .usable⟩, ⟨0x200000, 0x300000, .usable⟩]
  count := by decide
  base_lt := by decide
  stop_lt := by decide
  ordered := by decide

theorem narrowLayout_served : Serves narrowLayout {} [] 1 0x1000000 :=
  (requests_served_iff (.boot .start) 1 0x1000000).mpr <| Or.inr <| Or.inr <| Or.inr
    fun extent next => by
      obtain rfl : (⟨0x100000, 0x101000⟩ : Extent) = extent := Option.some.inj next
      decide

/-- The first request is for two pages: the region of one page is loaded forever. -/
theorem narrowLayout_hangs : ¬ Serves narrowLayout {} [] 2 0x1000000 := by
  intro serves
  have placed := (Reached.boot (@Boot.Run.start narrowLayout)).placed
  rcases (FrameAllocator.allocateContiguousBelow_returns_iff placed).mp serves.contiguous_returns with
    isSealed | empty | small | answered
  · cases isSealed
  · cases empty
  · exact absurd small (by decide)
  · exact absurd (answered ⟨0x100000, 0x101000⟩ rfl) (by decide)

end ZigOs.Memory
