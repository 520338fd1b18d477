/-
This file proves what the physical memory manager is given at the end of boot:
the pages behind the allocator's cut, and no others. From the cut on, each
region gives what is left of it; the region being handed out gives its rest, and
the ones behind it nothing. Regions that touch become one extent.
-/

import ZigOs.Memory.Conservation

namespace ZigOs.Memory

open Extents RuntimePagePool List PhysicalMemoryManager

/-- The pages of a list of extents. -/
def extentPages (extents : List Extent) : List Nat :=
  extents.flatMap fun extent => pagesBetween extent.base extent.stop

theorem extentPages_concat (front : List Extent) (last : Extent) :
    extentPages (front ++ [last]) = extentPages front ++ pagesBetween last.base last.stop := by
  rw [extentPages, flatMap_append, flatMap_singleton, extentPages]

/-- A manager that has these pages, all of them free, in at most so many extents below an address. -/
structure Collected (manager : PhysicalMemoryManager) (pages : List Nat) (top count : Nat) : Prop where
  whole : manager.freeExtents = manager.managed
  managed : extentPages manager.managed = pages
  counted : manager.totalPages = pages.length
  aligned : ∀ extent ∈ manager.managed, Aligned pageBytes extent
  below : ∀ extent ∈ manager.managed, extent.stop ≤ top
  length : manager.managed.length ≤ count

variable {value : Nat}

theorem alignForward_of_dvd (aligned : pageBytes ∣ value) (small : value < 2 ^ 64) :
    alignForward value = value := by
  obtain ⟨index, rfl⟩ := aligned
  unfold alignForward pageBytes at *
  omega

theorem alignBackward_of_dvd (aligned : pageBytes ∣ value) : alignBackward value = value :=
  Nat.div_mul_cancel aligned

/-- Pages above everything that the manager has are appended, as an extent of their own or merged
with the last one. -/
theorem Collected.append {manager : PhysicalMemoryManager} {pages : List Nat} {top count base stop : Nat}
    (collected : Collected manager pages top count) (dvd_base : pageBytes ∣ base)
    (dvd_stop : pageBytes ∣ stop) (minimum : minimumAllocatableAddress ≤ base) (some : base < stop)
    (small : stop < 2 ^ 64) (above : top ≤ base) (room : count < maximumRegions) :
    ∃ grown, manager.appendInitialExtent ⟨base, stop⟩ = .some grown ∧
      Collected grown (pages ++ pagesBetween base stop) stop (count + 1) := by
  obtain ⟨whole, isPages, counted, aligned, below, length⟩ := collected
  have new : Aligned pageBytes ⟨base, stop⟩ := ⟨dvd_base, dvd_stop, some⟩
  have total : manager.totalPages + (stop - base) / pageBytes =
      (pages ++ pagesBetween base stop).length := by
    rw [length_append, pagesBetween_length, counted]
  have alone : Collected {
      managed := manager.managed ++ [⟨base, stop⟩]
      freeExtents := manager.freeExtents ++ [⟨base, stop⟩]
      totalPages := manager.totalPages + (stop - base) / pageBytes }
      (pages ++ pagesBetween base stop) stop (count + 1) := by
    refine ⟨by rw [whole], by rw [extentPages_concat, isPages], total, fun extent member => ?_,
      fun extent member => ?_, by rw [length_append]; exact Nat.succ_le_succ length⟩
    · rcases mem_append.mp member with old | added
      · exact aligned extent old
      · rwa [mem_singleton.mp added]
    · rcases mem_append.mp member with old | added
      · exact (below extent old).trans (above.trans some.le)
      · rw [mem_singleton.mp added]
  unfold appendInitialExtent
  dsimp only
  rw [alignForward_of_dvd dvd_base (some.trans small), alignBackward_of_dvd dvd_stop,
    if_neg (not_or.mpr ⟨not_lt.mpr minimum, not_le.mpr some⟩), if_neg]
  · split
    · exact ⟨_, rfl, alone⟩
    · rename_i last isLast
      obtain ⟨front, split_managed⟩ := getLast?_eq_some_iff.mp isLast
      have isMember : last ∈ manager.managed := by
        rw [split_managed]
        exact mem_append_right _ mem_cons_self
      have under := (below last isMember).trans above
      rw [if_neg (not_lt.mpr under)]
      split
      · rename_i touches
        have lastAligned := aligned last isMember
        refine ⟨_, rfl, ?_, ?_, total, ?_, ?_, ?_⟩
        · rw [whole]
        · have merged := pagesBetween_append lastAligned.nonempty.le (touches.symm ▸ some.le)
            (Nat.dvd_sub lastAligned.stop lastAligned.base)
          dsimp only
          rw [split_managed, extendLast_concat, extentPages_concat, merged,
            ← isPages, split_managed, extentPages_concat, append_assoc, touches]
        · intro extent member
          dsimp only at member
          rw [split_managed, extendLast_concat] at member
          rcases mem_append.mp member with old | changed
          · exact aligned extent (split_managed ▸ mem_append_left _ old)
          · rw [mem_singleton.mp changed]
            exact ⟨lastAligned.base, dvd_stop, lastAligned.nonempty.trans (touches.symm ▸ some)⟩
        · intro extent member
          dsimp only at member
          rw [split_managed, extendLast_concat] at member
          rcases mem_append.mp member with old | changed
          · exact (below extent (split_managed ▸ mem_append_left _ old)).trans (above.trans some.le)
          · rw [mem_singleton.mp changed]
        · dsimp only
          rw [split_managed] at length ⊢
          rw [extendLast_concat]
          rw [length_append] at length ⊢
          exact length.trans (Nat.le_succ _)
      · exact ⟨_, rfl, alone⟩
  · rw [whole, not_or]
    have extents : maximumRegions ≤ maximumPhysicalExtents := by decide
    omega

/-- Rounding up saturates only where no whole page follows. -/
theorem base_le_start {region : Region} (stop_lt : region.stop < 2 ^ 64)
    (some : region.start < region.fullEnd) : region.base ≤ region.start := by
  simp only [Region.start, Region.fullEnd, alignForward, alignBackward, max_lt_iff, pageBytes] at some
  refine le_trans ?_ (le_max_left _ _)
  simp only [alignForward, pageBytes]
  omega

namespace FrameAllocator

/-- What a region gives to the manager. -/
def piece (allocator : FrameAllocator) (index : Nat) (region : Region) : List Nat :=
  if region.kind = .usable then
    match allocator.remainingStart index region with
    | none => []
    | some start => pagesBetween start region.fullEnd
  else []

/-- What the regions from an index on give. -/
def owed (allocator : FrameAllocator) (layout : Layout) (index : Nat) : List Nat :=
  if index < allocator.regionIndex then remainingPages layout allocator.checkpoint
  else (layout.regions.drop index).flatMap Region.pages

variable {layout : Layout} {allocator : FrameAllocator} {handed : List Nat}

variable {index : Nat} {region : Region}

theorem remainingStart_some {start : Nat}
    (remaining : allocator.remainingStart index region = some start) :
    start = region.start ∨ start = max region.start allocator.currentFrame := by
  unfold remainingStart at remaining
  split at remaining <;> split_ifs at remaining
  · exact .inr (Option.some.inj remaining).symm
  · exact .inl (Option.some.inj remaining).symm
  · exact .inl (Option.some.inj remaining).symm

theorem handOver_cons (allocator : FrameAllocator) (index : Nat) (region : Region)
    (rest : List Region) (manager : PhysicalMemoryManager) :
    handOver allocator index (region :: rest) manager =
      if region.kind ≠ .usable then handOver allocator (index + 1) rest manager
      else match allocator.remainingStart index region with
        | none => handOver allocator (index + 1) rest manager
        | some start =>
          if start ≥ region.fullEnd then handOver allocator (index + 1) rest manager
          else match manager.appendInitialExtent ⟨start, region.fullEnd⟩ with
            | none => (false, manager)
            | some grown => handOver allocator (index + 1) rest grown := rfl

variable {top : Nat} {manager : PhysicalMemoryManager} {pages : List Nat}

/-- One region more in the loop of the hand-over. -/
theorem handOver_region (placed : Placed layout allocator.checkpoint handed) (rest : List Region)
    (member : region ∈ layout.regions) (collected : Collected manager pages top index)
    (above : top ≤ region.base) (room : index < maximumRegions) :
    ∃ grown next, handOver allocator index (region :: rest) manager =
        handOver allocator (index + 1) rest grown ∧
      Collected grown (pages ++ allocator.piece index region) next (index + 1) ∧
        (next = top ∨ next ≤ region.stop) := by
  have nothing (empty : allocator.piece index region = []) :
      Collected manager (pages ++ allocator.piece index region) top (index + 1) := by
    rw [empty, append_nil]
    exact { collected with length := collected.length.trans (Nat.le_succ _) }
  rw [handOver_cons]
  unfold piece at nothing ⊢
  by_cases usable : region.kind = .usable
  · rw [if_neg (not_not.mpr usable)]
    rw [if_pos usable] at nothing ⊢
    rcases remaining : allocator.remainingStart index region with _ | start
    · rw [remaining] at nothing
      exact ⟨manager, top, rfl, nothing rfl, .inl rfl⟩
    · rw [remaining] at nothing
      dsimp only at nothing ⊢
      by_cases empty : start ≥ region.fullEnd
      · rw [if_pos empty]
        exact ⟨manager, top, rfl, nothing (pagesBetween_of_le empty), .inl rfl⟩
      · have first : region.start ≤ start := by
          rcases remainingStart_some remaining with rfl | rfl
          · exact le_rfl
          · exact le_max_left _ _
        have aligned : pageBytes ∣ start := by
          rcases remainingStart_some remaining with rfl | rfl
          · exact dvd_start region
          · rcases max_choice region.start allocator.currentFrame with same | same
            · rw [same]
              exact dvd_start region
            · rw [same]
              exact placed.frame
        have stop_lt := layout.stop_lt region member
        have minimum : minimumAllocatableAddress ≤ start := (le_max_right _ _).trans first
        have inside : region.base ≤ start :=
          (base_le_start stop_lt (first.trans_lt (not_le.mp empty))).trans first
        obtain ⟨grown, appended, more⟩ := collected.append aligned (dvd_fullEnd region) minimum
          (not_le.mp empty) ((fullEnd_le region).trans_lt stop_lt) (above.trans inside) room
        rw [if_neg empty, appended]
        exact ⟨grown, region.fullEnd, rfl, more, .inr (fullEnd_le region)⟩
  · rw [if_pos usable]
    rw [if_neg usable] at nothing ⊢
    exact ⟨manager, top, rfl, nothing rfl, .inl rfl⟩

variable {rest : List Region}

/-- The region in front of the cursor gives the rest of the current region, those before it
nothing, and those behind it all their pages. -/
theorem owed_cons (placed : Placed layout allocator.checkpoint handed)
    (here : layout.regions.drop index = region :: rest) :
    allocator.owed layout index = allocator.piece index region ++ allocator.owed layout (index + 1) := by
  have found : layout.regions[index]? = some region := by
    rw [← head?_drop, here, head?_cons]
  have next : layout.regions.drop (index + 1) = rest := by
    rw [← tail_drop, here, tail_cons]
  unfold owed
  rcases lt_trichotomy (index + 1) allocator.regionIndex with before | last | after
  · -- Every page of the region was handed out.
    have nothing : allocator.piece index region = [] := by
      unfold piece remainingStart
      split
      · split
        · rfl
        · rename_i start remaining
          split at remaining
          · rename_i current isCurrent
            unfold currentRegionIndex at isCurrent
            split_ifs at isCurrent
            cases isCurrent
            rw [if_pos (by omega)] at remaining
            cases remaining
          · rw [if_pos (by omega)] at remaining
            cases remaining
      · rfl
    rw [if_pos (by omega), if_pos before, nothing, nil_append]
  · rw [if_pos (by omega), if_neg (by omega), remainingPages]
    have behind : allocator.checkpoint.regionIndex = index + 1 := last.symm
    rw [behind]
    congr 1
    by_cases loaded : allocator.currentRegionFullEnd = 0
    · -- No region was ever loaded.
      have empty : pagesBetween allocator.currentFrame allocator.currentRegionFullEnd = [] :=
        pagesBetween_of_le (loaded ▸ Nat.zero_le _)
      have unknown : allocator.currentRegionIndex = none := if_neg fun both => both.1 loaded
      have remaining : allocator.remainingStart index region = none := by
        unfold remainingStart
        rw [unknown]
        exact if_pos (by omega)
      unfold piece
      rw [remaining]
      dsimp only
      rwa [ite_self]
    · have current : allocator.currentRegionIndex = some index := by
        unfold currentRegionIndex
        rw [if_pos ⟨loaded, by omega⟩, ← last, Nat.add_sub_cancel]
      have remaining : allocator.remainingStart index region =
          some (max region.start allocator.currentFrame) := by
        unfold remainingStart
        rw [current]
        dsimp only
        rw [if_neg (lt_irrefl _), if_pos rfl]
      obtain ⟨other, -, isOther, part⟩ := placed.current loaded
      rw [behind, Nat.add_sub_cancel, found] at isOther
      cases isOther
      unfold piece
      rw [remaining]
      rcases part with ⟨bare | empty, exhausted⟩ | ⟨usable, stop, start⟩
      · rw [if_neg bare]
        exact pagesBetween_of_le exhausted.ge
      · dsimp only
        rw [pagesBetween_of_le (empty.trans (le_max_left _ _)), ite_self]
        exact pagesBetween_of_le exhausted.ge
      · have frame : max region.start allocator.currentFrame = allocator.currentFrame := max_eq_right start
        rw [if_pos usable, frame]
        dsimp only
        rw [stop]
        rfl
  · have whole : allocator.remainingStart index region = some region.start := by
      unfold remainingStart
      split
      · rename_i current isCurrent
        unfold currentRegionIndex at isCurrent
        split_ifs at isCurrent with both
        cases isCurrent
        have positive := both.2
        rw [if_neg (by omega), if_neg (by omega), if_neg (by omega)]
      · rw [if_neg (by omega)]
    rw [if_neg (by omega), if_neg (by omega), here, next, flatMap_cons, piece, whole, Region.pages]

theorem owed_nil (placed : Placed layout allocator.checkpoint handed)
    (finished : layout.regions.drop index = []) : allocator.owed layout index = [] := by
  unfold owed
  split
  · rename_i behind
    have small := drop_eq_nil_iff.mp finished
    by_cases loaded : allocator.currentRegionFullEnd = 0
    · have none : layout.regions.drop allocator.regionIndex = [] :=
        drop_eq_nil_iff.mpr (small.trans behind.le)
      rw [remainingPages]
      simp only [checkpoint, loaded, none, flatMap_nil, append_nil]
      exact pagesBetween_of_le (Nat.zero_le _)
    · obtain ⟨region, -, found, -⟩ := placed.current loaded
      have inside := (List.getElem?_eq_some_iff.mp found).1
      change allocator.regionIndex - 1 < _ at inside
      omega
  · rw [finished, flatMap_nil]

/-- The loop gives the manager what every region still has. -/
theorem handOver_collects (placed : Placed layout allocator.checkpoint handed) (index : Nat)
    (here : layout.regions.drop index = rest) (collected : Collected manager pages top index)
    (above : ∀ region ∈ rest, top ≤ region.base) :
    (handOver allocator index rest manager).1 = true ∧
      ∃ last, Collected (handOver allocator index rest manager).2
        (pages ++ allocator.owed layout index) last (index + rest.length) := by
  induction rest generalizing index top manager pages with
  | nil =>
    refine ⟨rfl, top, ?_⟩
    rwa [owed_nil placed here, append_nil]
  | cons region rest hypothesis =>
    have member : region ∈ layout.regions :=
      mem_of_mem_drop (here ▸ mem_cons_self)
    have next : layout.regions.drop (index + 1) = rest := by
      rw [← tail_drop, here, tail_cons]
    have room : index < maximumRegions := by
      have size := congrArg List.length here
      rw [length_drop, length_cons] at size
      have count := layout.count
      omega
    obtain ⟨grown, stop, same, more, advanced⟩ :=
      handOver_region placed rest member collected (above region mem_cons_self) room
    have ordered := pairwise_cons.mp (here ▸ layout.ordered.sublist (drop_sublist _ _))
    have later : ∀ other ∈ rest, stop ≤ other.base := by
      intro other isLater
      rcases advanced with rfl | below
      · exact above other (mem_cons_of_mem _ isLater)
      · exact below.trans (ordered.1 other isLater)
    rw [same, owed_cons placed here, ← append_assoc, length_cons,
      show index + (rest.length + 1) = index + 1 + rest.length by omega]
    exact hypothesis (index + 1) next more later

/-- The manager gets exactly the pages behind the cut, and there is one unless nothing is left. -/
theorem initializeFromBootstrap_collects (placed : Placed layout allocator.checkpoint handed)
    (unsealed : allocator.isSealed = false) (manager : PhysicalMemoryManager) :
    (∃ top, Collected (allocator.initializeFromBootstrap layout manager).2.1
        (remainingPages layout allocator.checkpoint) top layout.regions.length) ∧
      ((allocator.initializeFromBootstrap layout manager).1 = true ↔
        remainingPages layout allocator.checkpoint ≠ []) := by
  have empty : Collected {} [] 0 0 := ⟨rfl, rfl, rfl, nofun, nofun, le_rfl⟩
  obtain ⟨ended, top, collected⟩ :=
    handOver_collects placed 0 rfl empty fun _ _ => Nat.zero_le _
  have all : allocator.owed layout 0 = remainingPages layout allocator.checkpoint := by
    unfold owed
    split
    · rfl
    · rename_i unstarted
      have first : allocator.regionIndex = 0 := by omega
      have unloaded : allocator.currentRegionFullEnd = 0 := by
        by_contra loaded
        obtain ⟨region, behind, -, -⟩ := placed.current loaded
        change 0 < allocator.regionIndex at behind
        omega
      rw [remainingPages]
      simp only [checkpoint, first, unloaded]
      rw [pagesBetween_of_le (Nat.zero_le _), nil_append]
  rw [nil_append, all, Nat.zero_add, drop_zero] at collected
  rw [drop_zero] at ended
  unfold initializeFromBootstrap
  rw [if_neg (by simp [unsealed])]
  dsimp only
  rw [ended]
  have none_iff : (handOver allocator 0 layout.regions {}).2.totalPages = 0 ↔
      remainingPages layout allocator.checkpoint = [] := by
    rw [collected.counted, length_eq_zero_iff]
  by_cases none : remainingPages layout allocator.checkpoint = []
  · rw [if_pos (.inr (none_iff.mpr none))]
    exact ⟨⟨top, collected⟩, iff_of_false Bool.false_ne_true (not_not.mpr none)⟩
  · rw [if_neg (not_or.mpr ⟨by decide, mt none_iff.mp none⟩)]
    exact ⟨⟨top, collected⟩, iff_of_true rfl none⟩

end FrameAllocator

/-! ### Nothing is lost -/

/-- Held pages are whole usable pages below the limits of their requests and held once; the
manager gets all others, each once, and everything it gets is free. -/
structure Boot.Conserved (layout : Layout) (boot : Boot) : Prop where
  distinct : boot.heldPages.Nodup
  usable : ∀ grant ∈ boot.held, WholeUsable layout grant.page ∧ grant.page + pageBytes ≤ grant.limit
  once : ∀ manager, (boot.heldPages ++ extentPages
    (boot.allocator.initializeFromBootstrap layout manager).2.1.managed).Nodup
  all : ∀ manager page, page ∈ boot.heldPages ++ extentPages
    (boot.allocator.initializeFromBootstrap layout manager).2.1.managed ↔ WholeUsable layout page
  free : ∀ manager, (boot.allocator.initializeFromBootstrap layout manager).2.1.freeExtents =
    (boot.allocator.initializeFromBootstrap layout manager).2.1.managed
  counted : ∀ manager, (boot.allocator.initializeFromBootstrap layout manager).2.1.totalPages =
    (extentPages (boot.allocator.initializeFromBootstrap layout manager).2.1.managed).length

theorem bootRun_conserves {layout : Layout} {boot : Boot} (run : Boot.Run layout boot) :
    boot.Conserved layout := by
  have sound := run.sound
  have cut := sound.placed.pages
  have whole : (boot.heldPages ++ remainingPages layout boot.allocator.checkpoint).Nodup :=
    cut ▸ usablePages_nodup layout
  have handed (manager : PhysicalMemoryManager) :=
    (FrameAllocator.initializeFromBootstrap_collects sound.placed sound.unsealed manager).1
  refine ⟨(nodup_append.mp whole).1, fun grant member => ⟨?_, sound.limits grant member⟩,
    fun manager => ?_, fun manager page => ?_, fun manager => ?_, fun manager => ?_⟩
  · have held : grant.page ∈ boot.heldPages := mem_map_of_mem member
    exact mem_usablePages.mp (cut ▸ mem_append_left _ held)
  · obtain ⟨top, collected⟩ := handed manager
    rw [collected.managed]
    exact whole
  · obtain ⟨top, collected⟩ := handed manager
    rw [collected.managed, cut]
    exact mem_usablePages
  · obtain ⟨top, collected⟩ := handed manager
    exact collected.whole
  · obtain ⟨top, collected⟩ := handed manager
    rw [collected.managed]
    exact collected.counted

/-- One usable region of four pages. -/
def fourPages : Layout where
  regions := [⟨0x200000, 0x204000, .usable⟩]
  count := by decide
  base_lt := by decide
  stop_lt := by decide
  ordered := pairwise_singleton _ _

/-- One page is handed out, and the manager gets the other three. -/
theorem fourPages_conserves : ((({} : Boot).grant 1 0x400000
    (some 0x200000, ⟨1, 0x201000, 0x204000, 0x204000, 1, false⟩))).Conserved fourPages :=
  bootRun_conserves (.step .start (@Boot.Step.allocateBelow fourPages {} 0x400000 2
    (some 0x200000, ⟨1, 0x201000, 0x204000, 0x204000, 1, false⟩) (by decide +kernel)))

end ZigOs.Memory
