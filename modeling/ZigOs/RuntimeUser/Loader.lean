/-
This file models the loading of a program image and proves it exact and
confined. Every page of a segment is a fresh page of zeros with the bytes of the
file that fall into it; the pages of an accepted image are all different, and
they lie below everything else in the user window.
-/

import ZigOs.Elf64
import ZigOs.RuntimeUser.FreshPages

namespace ZigOs.RuntimeUser

open RuntimePagePool ByteMemory Elf64 UserMemory Call List

def rangesOverlap (leftStart leftEnd rightStart rightEnd : Nat) : Bool :=
  leftStart < rightEnd ∧ rightStart < leftEnd

def validateSegment (segment : Segment) : Except MemoryError Unit :=
  let first := segment.virtualAddress
  let stop := first + segment.memorySize
  if stop ≥ 2 ^ 64 then .error .unsupportedAddress
  else if first < userBase ∨ stop > userEnd then .error .unsupportedAddress
  else if stop ≥ mmapFloor then .error .reservedAddress
  else if rangesOverlap first stop trampolineVirtual (trampolineVirtual + pageBytes) ∨
      rangesOverlap first stop stackVirtual stackTop ∨
      rangesOverlap first stop guardVirtual (guardVirtual + pageBytes) then .error .reservedAddress
  else .ok ()

def validateImage (image : Image) : Except MemoryError Unit :=
  if image.loadSegments = [] then .error .invalidElf
  else image.loadSegments.forM validateSegment

/-- So many bytes of the file from an offset on. -/
def fileSlice (file : List UInt8) (offset count : Nat) : Except MemoryError (List UInt8) :=
  if offset + count > file.length then .error .outsideFile
  else .ok ((file.drop offset).take count)

/-- Copy the bytes of the file that fall into a page of the segment. -/
def copySegmentBytes (file : List UInt8) (segment : Segment) (page physical : Nat) :
    MemoryCall Unit :=
  let copyStart := max page segment.virtualAddress
  let copyEnd := min (page + pageBytes) (segment.virtualAddress + segment.fileSize)
  if copyEnd > copyStart then do
    let bytes ← lift
      (fileSlice file (segment.fileOffset + copyStart - segment.virtualAddress) (copyEnd - copyStart))
    change fun memory => memory.storePhysical (physical + (copyStart - page)) bytes
  else return ()

def loadPage (file : List UInt8) (segment : Segment) (page : Nat) : MemoryCall Unit := do
  let physical ← allocatePage
  copySegmentBytes file segment page physical
  mapOwned page physical segment.writable segment.executable .image

/-- The pages that a segment reaches into. -/
def segmentPages (segment : Segment) : List Nat :=
  pagesBetween (segment.virtualAddress / pageBytes * pageBytes)
    (alignForward (segment.virtualAddress + segment.memorySize) pageBytes)

def loadSegment (file : List UInt8) (segment : Segment) : MemoryCall Unit :=
  (segmentPages segment).forM (loadPage file segment)

def imageEnd (image : Image) : Nat :=
  image.loadSegments.foldl (fun last segment => max last (segment.virtualAddress + segment.memorySize))
    userBase

def loadImage (image : Image) (file : List UInt8) : MemoryCall Unit := do
  image.loadSegments.forM (loadSegment file)
  change fun memory =>
    { memory with context := { memory.context with imageEnd := imageEnd image } }

/-! ### Where the pages lie -/

/-- Every page is visited once, and lies in the part of the window that is for the image. -/
structure Confined (image : Image) : Prop where
  once : (image.loadSegments.flatMap segmentPages).Nodup
  window : ∀ page ∈ image.loadSegments.flatMap segmentPages,
    userBase ≤ page ∧ page + pageBytes ≤ userEnd
  trampoline : ∀ page ∈ image.loadSegments.flatMap segmentPages,
    rangesOverlap page (page + pageBytes) trampolineVirtual (trampolineVirtual + pageBytes) = false
  stack : ∀ page ∈ image.loadSegments.flatMap segmentPages,
    rangesOverlap page (page + pageBytes) stackVirtual stackTop = false
  guarded : ∀ page ∈ image.loadSegments.flatMap segmentPages,
    rangesOverlap page (page + pageBytes) guardVirtual (guardVirtual + pageBytes) = false
  mmap : ∀ page ∈ image.loadSegments.flatMap segmentPages,
    rangesOverlap page (page + pageBytes) mmapFloor mmapCeiling = false

section Pages

variable {segment : Segment} {image : Image} {file : List UInt8} {page : Nat}

theorem mem_segmentPages : page ∈ segmentPages segment ↔
    pageBytes ∣ page ∧ segment.virtualAddress < page + pageBytes ∧ page < segment.pageEnd := by
  unfold segmentPages
  rw [Context.mem_pagesBetween]
  unfold Segment.pageEnd alignForward pageSize pageBytes
  constructor
  · rintro ⟨step, rfl, below⟩
    omega
  · rintro ⟨⟨step, rfl⟩, after, below⟩
    have reached : segment.virtualAddress / 4096 ≤ step := by omega
    refine ⟨step - segment.virtualAddress / 4096, ?_, ?_⟩
    · rw [Nat.mul_sub, Nat.mul_comm _ 4096, Nat.add_sub_cancel' (Nat.mul_le_mul_left 4096 reached)]
    · exact below

theorem validateSegment_ok (valid : validateSegment segment = .ok ()) :
    userBase ≤ segment.virtualAddress ∧ segment.virtualAddress + segment.memorySize < mmapFloor := by
  unfold validateSegment at valid
  dsimp only at valid
  split at valid
  · cases valid
  · split at valid
    · cases valid
    · split at valid
      · cases valid
      · omega

theorem validateImage_ok (valid : validateImage image = .ok ()) :
    ∀ segment ∈ image.loadSegments, validateSegment segment = .ok () := by
  unfold validateImage at valid
  split at valid
  · cases valid
  · generalize image.loadSegments = segments at valid ⊢
    induction segments with
    | nil => exact fun _ member => absurd member not_mem_nil
    | cons segment rest hypothesis =>
      intro other member
      replace valid : (validateSegment segment >>= fun _ => rest.forM validateSegment) = .ok () := valid
      rcases outcome : validateSegment segment with failure | done
      · rw [outcome] at valid
        cases valid
      · rw [outcome] at valid
        rcases mem_cons.mp member with rfl | later
        · exact outcome
        · exact hypothesis valid other later

/-- The pages of a valid segment lie between the bottom of the window and the mapping area. -/
theorem segmentPages_between (valid : validateSegment segment = .ok ())
    (member : page ∈ segmentPages segment) : userBase ≤ page ∧ page + pageBytes ≤ mmapFloor := by
  obtain ⟨lower, upper⟩ := validateSegment_ok valid
  obtain ⟨multiple, after, below⟩ := mem_segmentPages.mp member
  unfold Segment.pageEnd pageSize at below
  unfold mmapFloor userBase pageBytes at *
  omega

theorem segmentPages_disjoint {other : Segment} (rising : segment.pageEnd ≤ other.virtualAddress) :
    List.Disjoint (segmentPages segment) (segmentPages other) := by
  intro page here there
  obtain ⟨multiple, -, below⟩ := mem_segmentPages.mp here
  obtain ⟨-, after, -⟩ := mem_segmentPages.mp there
  unfold Segment.pageEnd pageSize at *
  unfold pageBytes at *
  omega

theorem confined_of_accepted (accepted : image.Accepted file)
    (valid : validateImage image = .ok ()) : Confined image := by
  have between : ∀ page ∈ image.loadSegments.flatMap segmentPages,
      userBase ≤ page ∧ page + pageBytes ≤ mmapFloor := by
    intro page member
    obtain ⟨segment, among, here⟩ := mem_flatMap.mp member
    exact segmentPages_between (validateImage_ok valid segment among) here
  have below {lower upper : Nat} (above : mmapFloor ≤ lower) :
      ∀ page ∈ image.loadSegments.flatMap segmentPages,
        rangesOverlap page (page + pageBytes) lower upper = false := by
    intro page member
    have ends := (between page member).2
    refine decide_eq_false fun overlap => ?_
    exact absurd (ends.trans above) (not_le.mpr overlap.2)
  refine ⟨nodup_flatMap.mpr ⟨fun segment _ => nodup_range' _, ?_⟩,
    fun page member => ⟨(between page member).1, (between page member).2.trans (by decide)⟩,
    below (by decide), below (by decide), below (by decide), below (le_refl _)⟩
  exact accepted.rising.imp segmentPages_disjoint

end Pages

/-! ### No read outside the file -/

theorem allocatePage_avoids : Avoids .outsideFile allocatePage := by
  intro memory same
  unfold allocatePage at same
  dsimp only at same
  split at same
  · cases same
  · cases same

theorem addUserPageTable_avoids (virtual : Nat) : Avoids .outsideFile (addUserPageTable virtual) := by
  refine avoids_state fun memory => avoids_bind (avoids_failWhen (by decide)) fun _ => ?_
  split
  · exact avoids_fail (by decide)
  · refine avoids_bind allocatePage_avoids fun physical => avoids_state fun later => ?_
    split
    · exact avoids_bind (avoids_change _) fun _ => avoids_fail (by decide)
    · exact avoids_change _

theorem mapPage_avoids (giveUp : UserMemory → UserMemory) (mapping : Mapping) :
    Avoids .outsideFile (mapPage giveUp mapping) := by
  refine avoids_state fun memory => ?_
  split
  · exact avoids_bind (avoids_change _) fun _ => avoids_fail (by decide)
  · have ensures : Avoids .outsideFile (ensurePageTable mapping.virtualAddress) :=
      avoids_state fun _ => avoids_ite (fun _ => avoids_pure ()) fun _ => addUserPageTable_avoids _
    refine avoids_attempt ensures fun result other => ?_
    split
    · rename_i failure
      refine avoids_bind (avoids_change _) fun _ => avoids_fail fun same => other ?_
      rw [same]
    · refine avoids_state fun later => ?_
      split
      · exact avoids_bind (avoids_change _) fun _ => avoids_fail (by decide)
      · exact avoids_change _

section Loading

variable {segment : Segment} {image : Image} {file : List UInt8} {memory : UserMemory}
  {page physical : Nat}

theorem copySegmentBytes_avoids (fits : segment.Fits file) (page physical : Nat) :
    Avoids .outsideFile (copySegmentBytes file segment page physical) := by
  have inFile := fits.inFile
  refine avoids_ite (fun copies => ?_) fun _ => avoids_pure ()
  refine avoids_lift ?_ fun bytes _ => avoids_change _
  unfold fileSlice
  rw [if_neg (by omega)]
  exact fun same => by cases same

theorem loadImage_avoids (fits : ∀ segment ∈ image.loadSegments, segment.Fits file) :
    Avoids .outsideFile (loadImage image file) := by
  refine avoids_bind (avoids_forM fun segment member => ?_) fun _ => avoids_change _
  refine avoids_forM fun page _ => avoids_bind allocatePage_avoids fun physical => ?_
  exact avoids_bind (copySegmentBytes_avoids (fits segment member) page physical)
    fun _ => mapPage_avoids _ _

/-! ### What is loaded -/

/-- The byte of a segment at an address: one of the file, or zero. -/
def segmentByte (file : List UInt8) (segment : Segment) (address : Nat) : UInt8 :=
  if segment.virtualAddress ≤ address ∧ address < segment.virtualAddress + segment.fileSize then
    (file[segment.fileOffset + (address - segment.virtualAddress)]?).getD 0
  else 0

/-- The page is mapped with the rights of the segment, and holds its bytes. -/
def PageLoaded (memory : UserMemory) (file : List UInt8) (segment : Segment) (page : Nat) : Prop :=
  ∃ frame, memory.Mapped page
      { physical := frame, writable := segment.writable, executable := segment.executable } ∧
    ∀ offset < pageBytes, memory.pool.contents (frame + offset) = segmentByte file segment (page + offset)

theorem PageLoaded.extends {after : UserMemory} (loaded : PageLoaded memory file segment page)
    (grown : memory.Extends after) : PageLoaded after file segment page := by
  obtain ⟨frame, mapped, holds⟩ := loaded
  exact ⟨frame, mapped.extends grown, fun offset below =>
    (grown.contents frame mapped.held offset below).trans (holds offset below)⟩

/-- Storing the part of the file that falls into a page of zeros gives the bytes of the segment. -/
theorem store_segmentBytes {contents : Memory} {offset : Nat} (fits : segment.Fits file)
    (zero : contents (physical + offset) = 0)
    (copies : min (page + pageBytes) (segment.virtualAddress + segment.fileSize) >
      max page segment.virtualAddress) (below : offset < pageBytes) :
    ByteMemory.store contents (physical + (max page segment.virtualAddress - page))
        ((file.drop (segment.fileOffset + max page segment.virtualAddress -
            segment.virtualAddress)).take
          (min (page + pageBytes) (segment.virtualAddress + segment.fileSize) -
            max page segment.virtualAddress)) (physical + offset) =
      segmentByte file segment (page + offset) := by
  have inFile := fits.inFile
  generalize isStart : max page segment.virtualAddress = copyStart at *
  generalize isEnd : min (page + pageBytes) (segment.virtualAddress + segment.fileSize) = copyEnd at *
  have whole : ((file.drop (segment.fileOffset + copyStart - segment.virtualAddress)).take
      (copyEnd - copyStart)).length = copyEnd - copyStart := by
    rw [length_take, length_drop]
    omega
  by_cases inside : copyStart - page ≤ offset ∧ offset < copyEnd - page
  · have place : physical + offset =
        physical + (copyStart - page) + (offset - (copyStart - page)) := by omega
    have early : offset - (copyStart - page) < copyEnd - copyStart := by omega
    have known : segment.fileOffset + (page + offset - segment.virtualAddress) < file.length := by omega
    rw [place, segmentByte, if_pos (by omega), getElem?_eq_getElem known, Option.getD_some]
    refine store_holds contents _ _ _ _ ?_
    rw [getElem?_take_of_lt early, getElem?_drop, ← getElem?_eq_getElem known]
    congr 1
    omega
  · rw [store_outside (by rw [whole]; omega), zero]
    exact (if_neg (by omega)).symm

/-- A page of zeros becomes the page of the segment. -/
theorem copySegmentBytes_gives {before : UserMemory} (fits : segment.Fits file)
    (allocated : before.Allocated physical memory) :
    Gives (fun _ after => after.Backed ∧ before.Extends after ∧ 0 < after.held physical ∧
      ∀ offset < pageBytes,
        after.pool.contents (physical + offset) = segmentByte file segment (page + offset))
      memory (copySegmentBytes file segment page physical) := by
  have inFile := fits.inFile
  refine gives_ite (fun copies => ?_) fun nothing => gives_pure
    ⟨allocated.backed, allocated.grown, allocated.held, fun offset below => ?_⟩
  · refine gives_lift fun bytes sliced => ?_
    unfold fileSlice at sliced
    rw [if_neg (by omega)] at sliced
    cases sliced
    intro _ after run
    obtain rfl := congrArg Prod.snd run
    refine ⟨allocated.backed, storePhysical_extends allocated.multiple ?_
      (fun _ => allocated.backed.multiple) allocated.grown allocated.fresh, allocated.held,
      fun offset below => store_segmentBytes fits (allocated.zero offset below) copies below⟩
    rw [length_take]
    omega
  · rw [allocated.zero offset below]
    exact (if_neg (by omega)).symm

theorem loadPage_gives (fits : segment.Fits file) (backed : memory.Backed) :
    Gives (fun _ after => after.Backed ∧ memory.Extends after ∧ PageLoaded after file segment page)
      memory (loadPage file segment page) := by
  refine gives_bind (allocatePage_gives backed) fun physical fresh allocated => ?_
  refine gives_bind (copySegmentBytes_gives fits allocated) fun _ copied filled => ?_
  obtain ⟨backedCopied, grown, held, holds⟩ := filled
  refine (mapPage_gives backedCopied held).imp fun _ after mapping => ?_
  obtain ⟨backedAfter, growth, mapped⟩ := mapping
  exact ⟨backedAfter, Trans.trans grown growth, physical, mapped, fun offset below =>
    (growth.contents physical held offset below).trans (holds offset below)⟩

/-- After a load every page of every segment is in place. -/
theorem loadImage_gives (fits : ∀ segment ∈ image.loadSegments, segment.Fits file)
    (backed : memory.Backed) :
    Gives (fun _ after => ∀ segment ∈ image.loadSegments, ∀ page ∈ segmentPages segment,
      PageLoaded after file segment page) memory (loadImage image file) := by
  have pages {before : UserMemory} {segment : Segment} (member : segment ∈ image.loadSegments)
      (isBacked : before.Backed) :
      Gives (fun _ after => after.Backed ∧ before.Extends after ∧
        ∀ page ∈ segmentPages segment, PageLoaded after file segment page) before
        (loadSegment file segment) :=
    gives_forM (fun _ _ _ grown loaded => loaded.extends grown)
      (fun _ _ _ sound => loadPage_gives (fits segment member) sound) isBacked
  have segments : Gives (fun _ after => after.Backed ∧ memory.Extends after ∧
      ∀ segment ∈ image.loadSegments, ∀ page ∈ segmentPages segment,
        PageLoaded after file segment page) memory (image.loadSegments.forM (loadSegment file)) :=
    gives_forM (fun _ _ _ grown loaded page member => (loaded page member).extends grown)
      (fun _ member _ sound => pages member sound) backed
  refine gives_bind segments fun _ middle loaded => ?_
  intro _ after run
  obtain rfl := congrArg Prod.snd run
  have recorded := (refl (r := Extends) middle).recorded
    { middle.context with imageEnd := imageEnd image }
  exact fun segment member page here => (loaded.2.2 segment member page here).extends recorded

/-! ### Reading the image back -/

def readByte (memory : UserMemory) (address : Nat) : Option UInt8 :=
  (memory.translateUserAddress address false false).map memory.pool.contents

theorem PageLoaded.readByte (loaded : PageLoaded memory file segment page) {address : Nat}
    (above : page ≤ address) (below : address < page + pageBytes) :
    readByte memory address = some (segmentByte file segment address) := by
  obtain ⟨frame, mapped, holds⟩ := loaded
  have multiple := (hasPageEntry_iff.mp mapped.reached).1
  have isPage : address / pageBytes * pageBytes = page := by
    unfold pageBytes at *
    omega
  have inPage : page + address % pageBytes = address := by
    unfold pageBytes at *
    omega
  have byte := holds (address % pageBytes) (Nat.mod_lt _ (by decide))
  rw [inPage] at byte
  unfold RuntimeUser.readByte translateUserAddress
  rw [isPage, mapped.inspect]
  exact congrArg some byte

/-- The memory holds the image: the bytes of the file where the segments have them, zeros in the
rest of their pages, every page with the rights of its segment, and the entry executable. -/
structure Loaded (image : Image) (file : List UInt8) (memory : UserMemory) : Prop where
  contents : ∀ segment ∈ image.loadSegments, ∀ offset < segment.fileSize,
    ∃ byte, file[segment.fileOffset + offset]? = some byte ∧
      readByte memory (segment.virtualAddress + offset) = some byte
  zero : ∀ segment ∈ image.loadSegments, ∀ page ∈ segmentPages segment, ∀ address, page ≤ address →
    address < page + pageBytes →
      address < segment.virtualAddress ∨ segment.virtualAddress + segment.fileSize ≤ address →
        readByte memory address = some 0
  rights : ∀ segment ∈ image.loadSegments, ∀ page ∈ segmentPages segment,
    ∃ entry, memory.inspectUserPage page = some entry ∧ entry.writable = segment.writable ∧
      entry.executable = segment.executable ∧ ¬ (entry.writable = true ∧ entry.executable = true)
  entry : (memory.translateUserAddress image.entry false true).isSome = true

/-- The page of an address in a segment. -/
theorem page_mem_segmentPages {address : Nat} (above : segment.virtualAddress ≤ address)
    (below : address < segment.virtualAddress + segment.memorySize) :
    address / pageBytes * pageBytes ∈ segmentPages segment := by
  rw [mem_segmentPages]
  unfold Segment.pageEnd pageSize pageBytes
  omega

theorem loaded_of_pages (accepted : image.Accepted file)
    (pages : ∀ segment ∈ image.loadSegments, ∀ page ∈ segmentPages segment,
      PageLoaded memory file segment page) : Loaded image file memory where
  contents := by
    intro segment member offset inside
    have fits := accepted.fits segment member
    have inFile := fits.inFile
    have sized := fits.sized
    have known : segment.fileOffset + offset < file.length := by omega
    have here := pages segment member _ (@page_mem_segmentPages segment
      (segment.virtualAddress + offset) (by omega) (by omega))
    refine ⟨file[segment.fileOffset + offset], getElem?_eq_getElem known, ?_⟩
    rw [here.readByte (Nat.div_mul_le_self _ _) (Nat.lt_div_mul_add (by decide)), segmentByte,
      if_pos (by omega), Nat.add_sub_cancel_left, getElem?_eq_getElem known, Option.getD_some]
  zero := by
    intro segment member page here address above below outside
    rw [(pages segment member page here).readByte above below, segmentByte, if_neg (by omega)]
  rights := by
    intro segment member page here
    obtain ⟨frame, mapped, -⟩ := pages segment member page here
    exact ⟨_, mapped.inspect, rfl, rfl, (accepted.fits segment member).exclusive⟩
  entry := by
    obtain ⟨segment, member, executable, above, below⟩ := accepted.entered
    obtain ⟨frame, mapped, -⟩ := pages segment member _ (page_mem_segmentPages above below)
    unfold translateUserAddress
    rw [mapped.inspect]
    simp [executable]

/-- Loading an accepted image is confined to the image's part of the window, reads nothing outside
the file, and when it succeeds the memory holds the image. -/
theorem loadImage_exact {system : System} (parsed : parse file = .ok image)
    (valid : validateImage image = .ok ()) (reachable : RuntimePagePool.Reachable system)
    (isPool : memory.pool.toPool = system.pool) (manager : system.pool.manager.isSome = true) :
    (∀ other, Inside (parse other)) ∧ Confined image ∧
      (loadImage image file memory).1 ≠ .error .outsideFile ∧
      ∀ after, loadImage image file memory = (.ok (), after) → Loaded image file after := by
  have accepted := parse_accepted parsed
  have backed : memory.Backed := by
    unfold Backed
    rw [isPool]
    exact ⟨manager, system.others, system.log, reachable.owned⟩
  refine ⟨parse_inside, confined_of_accepted accepted valid, loadImage_avoids accepted.fits memory,
    fun after run => loaded_of_pages accepted ?_⟩
  exact loadImage_gives accepted.fits backed () after run

end Loading

/-! ### A file of one segment -/

/-- The header and one program header, which cover themselves and one byte more than a page. -/
def headerFile : List UInt8 :=
  [0x7F, 0x45, 0x4C, 0x46, 2, 1, 1, 0] ++ List.replicate 8 0 ++ littleEndian 2 2 ++
    littleEndian 2 0x3E ++ littleEndian 4 1 ++ words [userBase + 64, 64, 0] ++ littleEndian 4 0 ++
    littleEndian 2 64 ++ littleEndian 2 56 ++ littleEndian 2 1 ++ List.replicate 6 0 ++
    littleEndian 4 ptLoad ++ littleEndian 4 (pfRead ||| pfExecute) ++
    words [0, userBase, userBase, 120, 4097, pageSize]

def headerImage : Image where
  entry := userBase + 64
  programHeaderOffset := 64
  programHeaderCount := 1
  loadSegments := [{ fileOffset := 0, virtualAddress := userBase, fileSize := 120, memorySize := 4097
                     alignment := pageSize, flags := pfRead ||| pfExecute }]
  fileHash := fnv1a64 headerFile

/-- An empty address space over a pool of four pages. -/
def emptyMemory : UserMemory where
  context := { handle := 7 }
  pool := { manager := some smallManager, pageCount := 4, limitExclusive := fourGib }

theorem headerImage_loaded :
    Confined headerImage ∧ ∃ after, loadImage headerImage headerFile emptyMemory = (.ok (), after) ∧
      Loaded headerImage headerFile after := by
  have built : PhysicalMemoryManager.initForTesting [⟨0x600000, 0x604000⟩] = some smallManager := by
    decide
  have ready : Pool.initializeManager smallManager 4 fourGib = .ok emptyMemory.pool.toPool := rfl
  have reachable : RuntimePagePool.Reachable { pool := emptyMemory.pool.toPool } :=
    .managed (by decide) built ready
  have loads : (loadImage headerImage headerFile emptyMemory).1 = .ok () := by decide +kernel
  have parsed : parse headerFile = .ok headerImage := by decide +kernel
  have valid : validateImage headerImage = .ok () := by decide +kernel
  obtain ⟨-, confined, -, holds⟩ := loadImage_exact parsed valid reachable
    (show emptyMemory.pool.toPool = _ from rfl) rfl
  rcases outcome : loadImage headerImage headerFile emptyMemory with ⟨result, after⟩
  rw [outcome] at loads
  obtain rfl : result = .ok () := loads
  exact ⟨confined, after, rfl, holds after outcome⟩

end ZigOs.RuntimeUser
