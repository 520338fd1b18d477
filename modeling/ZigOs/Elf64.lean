/-
This file models the parser of program images. It reads the header and the
program headers of a file at fixed offsets, and it accepts a file only when its
load segments lie inside the file, rise page by page and are nowhere writable
and executable at once. A read past the end of the file is an outcome of its
own, and no file leads to it.
-/

import Mathlib

namespace ZigOs.Elf64

open List

abbrev pageSize : Nat := 4096
abbrev maximumLoadSegments : Nat := 4
abbrev ptLoad : Nat := 1
abbrev pfExecute : Nat := 1
abbrev pfWrite : Nat := 2
abbrev pfRead : Nat := 4

/-- How parsing ends without an image: the file is not accepted, or a read missed it. -/
inductive Refusal where
  | rejected | outside
  deriving DecidableEq, Repr

structure Segment where
  fileOffset : Nat
  virtualAddress : Nat
  fileSize : Nat
  memorySize : Nat
  alignment : Nat
  flags : Nat
  deriving DecidableEq, Repr

namespace Segment

def readable (segment : Segment) : Bool := segment.flags &&& pfRead != 0

def writable (segment : Segment) : Bool := segment.flags &&& pfWrite != 0

def executable (segment : Segment) : Bool := segment.flags &&& pfExecute != 0

end Segment

structure Image where
  entry : Nat
  programHeaderOffset : Nat
  programHeaderCount : Nat
  loadSegments : List Segment
  fileHash : Nat
  deriving DecidableEq, Repr

/-! ### Reading -/

def byteAt (file : List UInt8) (offset : Nat) : Except Refusal Nat :=
  match file[offset]? with
  | some byte => .ok byte.toNat
  | none => .error .outside

def read16 (file : List UInt8) (offset : Nat) : Except Refusal Nat := do
  let low ← byteAt file offset
  let high ← byteAt file (offset + 1)
  return low ||| high <<< 8

def read32 (file : List UInt8) (offset : Nat) : Except Refusal Nat := do
  let low ← read16 file offset
  let high ← read16 file (offset + 2)
  return low ||| high <<< 16

def read64 (file : List UInt8) (offset : Nat) : Except Refusal Nat := do
  let low ← read32 file offset
  let high ← read32 file (offset + 4)
  return low ||| high <<< 32

def rejectWhen (condition : Prop) [Decidable condition] : Except Refusal Unit :=
  if condition then .error .rejected else .ok ()

/-! ### The parser -/

def isCanonicalUser (address : Nat) : Bool := address ≤ 0x7FFF_FFFF_FFFF

def alignForward (value alignment : Nat) : Option Nat :=
  if alignment = 0 ∨ alignment &&& (alignment - 1) ≠ 0 then none
  else if value + (alignment - 1) ≥ 2 ^ 64 then none
  else some ((value + (alignment - 1)) / alignment * alignment)

def fnv1a64 (bytes : List UInt8) : Nat :=
  bytes.foldl (fun value byte => ((value ^^^ byte.toNat) * 0x100_0000_01B3) % 2 ^ 64)
    0xCBF2_9CE4_8422_2325

/-- The magic number, the class, the byte order, the version and the padding. -/
def checkIdentification (file : List UInt8) : Except Refusal Unit := do
  rejectWhen (file.length < 64)
  rejectWhen (file.take 4 ≠ [0x7F, 0x45, 0x4C, 0x46])
  rejectWhen ((file.drop 4).take 4 ≠ [2, 1, 1, 0])
  rejectWhen ((file.drop 8).take 8 ≠ List.replicate 8 0)
  let kind ← read16 file 16
  let machine ← read16 file 18
  let version ← read32 file 20
  rejectWhen (kind ≠ 2 ∨ machine ≠ 0x3E ∨ version ≠ 1)

/-- The section table is optional; if there is one, it lies inside the file. -/
def checkSections (file : List UInt8) (sectionHeaderOffset : Nat) : Except Refusal Unit := do
  let sectionHeaderSize ← read16 file 58
  let sectionHeaderCount ← read16 file 60
  let sectionNameIndex ← read16 file 62
  rejectWhen (if sectionHeaderOffset = 0 then
      sectionHeaderSize ≠ 0 ∨ sectionHeaderCount ≠ 0 ∨ sectionNameIndex ≠ 0
    else
      (sectionHeaderSize ≠ 64 ∨ sectionHeaderCount = 0 ∨ sectionHeaderCount > 256 ∨
        sectionNameIndex ≥ sectionHeaderCount) ∨
      sectionHeaderOffset > file.length ∨
        sectionHeaderCount * 64 > file.length - sectionHeaderOffset)

/-- What the loop over the program headers has found so far. -/
structure Found where
  segments : List Segment := []
  previousEnd : Nat := 0
  entryInExecutable : Bool := false

/-- Check one segment and append it. -/
def acceptSegment (file : List UInt8) (entry physicalAddress : Nat) (found : Found)
    (segment : Segment) : Except Refusal Found := do
  rejectWhen ((physicalAddress ≠ 0 ∧ physicalAddress ≠ segment.virtualAddress) ∨ segment.flags = 0 ∨
    segment.flags &&& ((2 ^ 32 - 1) ^^^ (pfRead ||| pfWrite ||| pfExecute)) ≠ 0)
  rejectWhen (segment.readable = false ∨ (segment.writable ∧ segment.executable))
  rejectWhen (segment.memorySize < segment.fileSize ∨ segment.memorySize = 0)
  rejectWhen (segment.alignment ≠ pageSize ∨
    segment.fileOffset % pageSize ≠ segment.virtualAddress % pageSize)
  rejectWhen (isCanonicalUser segment.virtualAddress = false)
  let memoryEnd := segment.virtualAddress + segment.memorySize
  rejectWhen (memoryEnd ≥ 2 ^ 64)
  rejectWhen (memoryEnd ≤ segment.virtualAddress ∨ isCanonicalUser (memoryEnd - 1) = false)
  let fileEnd := segment.fileOffset + segment.fileSize
  rejectWhen (fileEnd ≥ 2 ^ 64)
  rejectWhen (fileEnd > file.length)
  rejectWhen (found.segments.length ≠ 0 ∧ segment.virtualAddress < found.previousEnd)
  match alignForward memoryEnd pageSize with
  | none => .error .rejected
  | some previousEnd => do
    rejectWhen (found.segments.length ≥ maximumLoadSegments)
    return {
      segments := found.segments ++ [segment]
      previousEnd
      entryInExecutable := found.entryInExecutable ||
        (segment.executable && decide (segment.virtualAddress ≤ entry ∧ entry < memoryEnd)) }

def parseProgramHeader (file : List UInt8) (entry offset : Nat) (found : Found) :
    Except Refusal Found := do
  let kind ← read32 file offset
  let flags ← read32 file (offset + 4)
  let fileOffset ← read64 file (offset + 8)
  let virtualAddress ← read64 file (offset + 16)
  let physicalAddress ← read64 file (offset + 24)
  let fileSize ← read64 file (offset + 32)
  let memorySize ← read64 file (offset + 40)
  let alignment ← read64 file (offset + 48)
  rejectWhen (kind ≠ ptLoad)
  acceptSegment file entry physicalAddress found
    { fileOffset, virtualAddress, fileSize, memorySize, alignment, flags }

/-- The loop over the program headers from an index on. -/
def parseProgramHeaders (file : List UInt8) (entry programHeaderOffset : Nat) :
    Nat → Nat → Found → Except Refusal Found
  | 0, _, found => .ok found
  | count + 1, index, found => do
    let next ← parseProgramHeader file entry (programHeaderOffset + index * 56) found
    parseProgramHeaders file entry programHeaderOffset count (index + 1) next

def parse (file : List UInt8) : Except Refusal Image := do
  checkIdentification file
  let entry ← read64 file 24
  let programHeaderOffset ← read64 file 32
  let sectionHeaderOffset ← read64 file 40
  let flags ← read32 file 48
  rejectWhen (flags ≠ 0)
  let headerSize ← read16 file 52
  let programHeaderSize ← read16 file 54
  rejectWhen (headerSize ≠ 64 ∨ programHeaderSize ≠ 56)
  let programHeaderCount ← read16 file 56
  rejectWhen (programHeaderCount = 0 ∨ programHeaderCount > 16)
  checkSections file sectionHeaderOffset
  rejectWhen (programHeaderOffset > file.length ∨
    programHeaderCount * 56 > file.length - programHeaderOffset)
  rejectWhen (isCanonicalUser entry = false)
  let found ← parseProgramHeaders file entry programHeaderOffset programHeaderCount 0 {}
  rejectWhen (found.segments.length ≠ programHeaderCount ∨ found.entryInExecutable = false)
  return {
    entry, programHeaderOffset, programHeaderCount
    loadSegments := found.segments
    fileHash := fnv1a64 file }

section Proofs

variable {Value Next : Type} {file : List UInt8} {entry offset : Nat}

/-! ### Reads inside the file -/

/-- The result does not come from a read past the end of the file. -/
def Inside (result : Except Refusal Value) : Prop := result ≠ .error .outside

theorem inside_ok (value : Value) : Inside (.ok value) := nofun

variable {result : Except Refusal Value}

theorem inside_bind {next : Value → Except Refusal Next} (inside : Inside result)
    (rest : ∀ value, result = .ok value → Inside (next value)) : Inside (result >>= next) := by
  rcases outcome : result with refusal | value
  · rw [outcome] at inside
    intro same
    exact inside (congrArg Except.error (Except.error.inj same))
  · exact rest value outcome

theorem inside_rejectWhen (condition : Prop) [Decidable condition] :
    Inside (rejectWhen condition) := by
  unfold rejectWhen
  split
  · nofun
  · exact inside_ok ()

variable {condition : Prop}

theorem inside_rejectWhen_bind [Decidable condition] {next : Unit → Except Refusal Next}
    (rest : ¬ condition → Inside (next ())) : Inside (rejectWhen condition >>= next) := by
  refine inside_bind (inside_rejectWhen condition) fun _ passed => rest fun holds => ?_
  rw [rejectWhen, if_pos holds] at passed
  cases passed

theorem byteAt_ok (below : offset < file.length) : ∃ value, byteAt file offset = .ok value := by
  refine ⟨file[offset].toNat, ?_⟩
  rw [byteAt, getElem?_eq_getElem below]

theorem read16_ok (below : offset + 2 ≤ file.length) : ∃ value, read16 file offset = .ok value := by
  obtain ⟨low, isLow⟩ := @byteAt_ok file offset (by omega)
  obtain ⟨high, isHigh⟩ := @byteAt_ok file (offset + 1) (by omega)
  refine ⟨low ||| high <<< 8, ?_⟩
  rw [read16, isLow, isHigh]
  rfl

theorem read32_ok (below : offset + 4 ≤ file.length) : ∃ value, read32 file offset = .ok value := by
  obtain ⟨low, isLow⟩ := @read16_ok file offset (by omega)
  obtain ⟨high, isHigh⟩ := @read16_ok file (offset + 2) (by omega)
  refine ⟨low ||| high <<< 16, ?_⟩
  rw [read32, isLow, isHigh]
  rfl

theorem read64_ok (below : offset + 8 ≤ file.length) : ∃ value, read64 file offset = .ok value := by
  obtain ⟨low, isLow⟩ := @read32_ok file offset (by omega)
  obtain ⟨high, isHigh⟩ := @read32_ok file (offset + 4) (by omega)
  refine ⟨low ||| high <<< 32, ?_⟩
  rw [read64, isLow, isHigh]
  rfl

theorem inside_read {next : Value → Except Refusal Next} (reads : ∃ value, result = .ok value)
    (rest : ∀ value, Inside (next value)) : Inside (result >>= next) := by
  obtain ⟨value, rfl⟩ := reads
  exact rest value

theorem checkIdentification_inside (file : List UInt8) : Inside (checkIdentification file) := by
  unfold checkIdentification
  refine inside_rejectWhen_bind fun long => ?_
  refine inside_rejectWhen_bind fun _ => inside_rejectWhen_bind fun _ => inside_rejectWhen_bind fun _ => ?_
  refine inside_read (read16_ok (by omega)) fun kind => ?_
  refine inside_read (read16_ok (by omega)) fun machine => ?_
  refine inside_read (read32_ok (by omega)) fun version => ?_
  exact inside_rejectWhen _

theorem checkSections_inside (long : 64 ≤ file.length) (sectionHeaderOffset : Nat) :
    Inside (checkSections file sectionHeaderOffset) := by
  unfold checkSections
  refine inside_read (read16_ok (by omega)) fun size => ?_
  refine inside_read (read16_ok (by omega)) fun count => ?_
  refine inside_read (read16_ok (by omega)) fun name => ?_
  exact inside_rejectWhen _

theorem acceptSegment_inside (file : List UInt8) (entry physicalAddress : Nat) (found : Found)
    (segment : Segment) : Inside (acceptSegment file entry physicalAddress found segment) := by
  unfold acceptSegment
  refine inside_rejectWhen_bind fun _ => inside_rejectWhen_bind fun _ => inside_rejectWhen_bind fun _ => ?_
  refine inside_rejectWhen_bind fun _ => inside_rejectWhen_bind fun _ => inside_rejectWhen_bind fun _ => ?_
  refine inside_rejectWhen_bind fun _ => inside_rejectWhen_bind fun _ => inside_rejectWhen_bind fun _ => ?_
  refine inside_rejectWhen_bind fun _ => ?_
  split
  · nofun
  · exact inside_rejectWhen_bind fun _ => inside_ok _

theorem parseProgramHeader_inside (below : offset + 56 ≤ file.length) (found : Found) :
    Inside (parseProgramHeader file entry offset found) := by
  unfold parseProgramHeader
  refine inside_read (read32_ok (by omega)) fun kind => ?_
  refine inside_read (read32_ok (by omega)) fun flags => ?_
  refine inside_read (read64_ok (by omega)) fun fileOffset => ?_
  refine inside_read (read64_ok (by omega)) fun virtualAddress => ?_
  refine inside_read (read64_ok (by omega)) fun physicalAddress => ?_
  refine inside_read (read64_ok (by omega)) fun fileSize => ?_
  refine inside_read (read64_ok (by omega)) fun memorySize => ?_
  refine inside_read (read64_ok (by omega)) fun alignment => ?_
  exact inside_rejectWhen_bind fun _ => acceptSegment_inside _ _ _ _ _

variable {count index : Nat}

theorem parseProgramHeaders_inside (below : offset + (index + count) * 56 ≤ file.length)
    (found : Found) : Inside (parseProgramHeaders file entry offset count index found) := by
  induction count generalizing index found with
  | zero => exact inside_ok found
  | succ count hypothesis =>
    refine inside_bind (parseProgramHeader_inside (by omega) found) fun next _ => ?_
    exact hypothesis (by omega) next

/-- Parsing reads nothing behind the end of the file. -/
theorem parse_inside (file : List UInt8) : Inside (parse file) := by
  unfold parse
  refine inside_bind (checkIdentification_inside file) fun _ identified => ?_
  have long : 64 ≤ file.length := by
    by_contra short
    rw [checkIdentification, rejectWhen, if_pos (by omega)] at identified
    cases identified
  refine inside_read (read64_ok (by omega)) fun entry => ?_
  refine inside_read (read64_ok (by omega)) fun programHeaderOffset => ?_
  refine inside_read (read64_ok (by omega)) fun sectionHeaderOffset => ?_
  refine inside_read (read32_ok (by omega)) fun flags => inside_rejectWhen_bind fun _ => ?_
  refine inside_read (read16_ok (by omega)) fun headerSize => ?_
  refine inside_read (read16_ok (by omega)) fun programHeaderSize => inside_rejectWhen_bind fun _ => ?_
  refine inside_read (read16_ok (by omega)) fun count => inside_rejectWhen_bind fun _ => ?_
  refine inside_bind (checkSections_inside long _) fun _ _ => ?_
  refine inside_rejectWhen_bind fun room => inside_rejectWhen_bind fun _ => ?_
  refine inside_bind (parseProgramHeaders_inside (by omega) _) fun found _ => ?_
  exact inside_rejectWhen_bind fun _ => inside_ok _

/-! ### What is accepted -/

/-- Where the last page of the segment ends. -/
def Segment.pageEnd (segment : Segment) : Nat :=
  (segment.virtualAddress + segment.memorySize + (pageSize - 1)) / pageSize * pageSize

/-- The segment lies inside the file and the canonical addresses, and its pages are not
writable and executable at once. -/
structure Segment.Fits (segment : Segment) (file : List UInt8) : Prop where
  inFile : segment.fileOffset + segment.fileSize ≤ file.length
  nonempty : 0 < segment.memorySize
  sized : segment.fileSize ≤ segment.memorySize
  congruent : segment.fileOffset % pageSize = segment.virtualAddress % pageSize
  canonical : segment.virtualAddress + segment.memorySize ≤ 2 ^ 47
  exclusive : ¬ (segment.writable = true ∧ segment.executable = true)

/-- The address lies in an executable segment. -/
def Enters (segments : List Segment) (entry : Nat) : Prop :=
  ∃ segment ∈ segments, segment.executable = true ∧ segment.virtualAddress ≤ entry ∧
    entry < segment.virtualAddress + segment.memorySize

/-- Every segment fits, the segments share no page, and the entry is executable. -/
structure Image.Accepted (image : Image) (file : List UInt8) : Prop where
  fits : ∀ segment ∈ image.loadSegments, segment.Fits file
  rising : image.loadSegments.Pairwise fun first second => first.pageEnd ≤ second.virtualAddress
  entered : Enters image.loadSegments image.entry

/-- What the loop has found holds so far. -/
structure Found.Sound (found : Found) (file : List UInt8) (entry : Nat) : Prop where
  fits : ∀ segment ∈ found.segments, segment.Fits file
  rising : found.segments.Pairwise fun first second => first.pageEnd ≤ second.virtualAddress
  below : ∀ segment ∈ found.segments, segment.pageEnd ≤ found.previousEnd
  entered : found.entryInExecutable = true → Enters found.segments entry

variable {final : Next}

theorem bind_ok {next : Value → Except Refusal Next}
    (succeeded : (result >>= next) = .ok final) : ∃ value, result = .ok value ∧ next value = .ok final := by
  cases result with
  | error refusal => cases succeeded
  | ok value => exact ⟨value, rfl, succeeded⟩

theorem rejectWhen_bind_ok [Decidable condition] {next : Unit → Except Refusal Next}
    (succeeded : (rejectWhen condition >>= next) = .ok final) : ¬ condition ∧ next () = .ok final := by
  unfold rejectWhen at succeeded
  split at succeeded
  · cases succeeded
  · rename_i passes
    exact ⟨passes, succeeded⟩

theorem alignForward_ok {value aligned : Nat} (rounded : alignForward value pageSize = some aligned) :
    aligned = (value + (pageSize - 1)) / pageSize * pageSize := by
  unfold alignForward at rounded
  rw [if_neg (by decide)] at rounded
  split at rounded
  · cases rounded
  · exact (Option.some.inj rounded).symm

theorem Found.Sound.accept {found next : Found} {segment : Segment} {physicalAddress : Nat}
    (sound : found.Sound file entry)
    (accepted : acceptSegment file entry physicalAddress found segment = .ok next) :
    next.Sound file entry := by
  unfold acceptSegment at accepted
  obtain ⟨-, accepted⟩ := rejectWhen_bind_ok accepted
  obtain ⟨modes, accepted⟩ := rejectWhen_bind_ok accepted
  obtain ⟨sizes, accepted⟩ := rejectWhen_bind_ok accepted
  obtain ⟨aligned, accepted⟩ := rejectWhen_bind_ok accepted
  obtain ⟨-, accepted⟩ := rejectWhen_bind_ok accepted
  obtain ⟨-, accepted⟩ := rejectWhen_bind_ok accepted
  obtain ⟨canonical, accepted⟩ := rejectWhen_bind_ok accepted
  obtain ⟨-, accepted⟩ := rejectWhen_bind_ok accepted
  obtain ⟨inFile, accepted⟩ := rejectWhen_bind_ok accepted
  obtain ⟨ordered, accepted⟩ := rejectWhen_bind_ok accepted
  rcases rounded : alignForward (segment.virtualAddress + segment.memorySize) pageSize with _ | previousEnd
  · rw [rounded] at accepted
    cases accepted
  · rw [rounded] at accepted
    obtain ⟨-, accepted⟩ := rejectWhen_bind_ok accepted
    cases accepted
    have isEnd : previousEnd = segment.pageEnd := alignForward_ok rounded
    rw [not_or] at modes sizes aligned canonical
    have last : segment.virtualAddress + segment.memorySize - 1 ≤ 0x7FFF_FFFF_FFFF := by
      simpa [isCanonicalUser] using canonical.2
    have fits : segment.Fits file :=
      { inFile := not_lt.mp inFile
        nonempty := by omega
        sized := by omega
        congruent := not_not.mp aligned.2
        canonical := by omega
        exclusive := modes.2 }
    -- A segment found before ends in front of the new one, which ends behind it.
    have apart : ∀ other ∈ found.segments, other.pageEnd ≤ segment.virtualAddress := by
      intro other member
      have some : found.segments.length ≠ 0 := (length_pos_of_mem member).ne'
      exact (sound.below other member).trans (not_lt.mp fun early => ordered ⟨some, early⟩)
    refine ⟨fun other member => ?_, ?_, fun other member => ?_, fun entered => ?_⟩
    · rcases mem_append.mp member with old | new
      · exact sound.fits other old
      · rwa [mem_singleton.mp new]
    · exact pairwise_append.mpr ⟨sound.rising, pairwise_singleton _ _,
        fun other member new isNew => by
          rw [mem_singleton.mp isNew]
          exact apart other member⟩
    · rw [isEnd]
      rcases mem_append.mp member with old | new
      · have rounds : segment.virtualAddress ≤ segment.pageEnd := by
          unfold Segment.pageEnd pageSize
          omega
        exact (apart other old).trans rounds
      · rw [mem_singleton.mp new]
    · rw [Bool.or_eq_true, Bool.and_eq_true, decide_eq_true_eq] at entered
      rcases entered with before | ⟨isExecutable, here⟩
      · obtain ⟨other, member, enters⟩ := sound.entered before
        exact ⟨other, mem_append_left _ member, enters⟩
      · exact ⟨segment, mem_append_right _ (mem_singleton_self _), isExecutable, here⟩

variable {found : Found}

theorem Found.Sound.header {next : Found} (sound : found.Sound file entry)
    (parsed : parseProgramHeader file entry offset found = .ok next) : next.Sound file entry := by
  unfold parseProgramHeader at parsed
  obtain ⟨kind, -, parsed⟩ := bind_ok parsed
  obtain ⟨flags, -, parsed⟩ := bind_ok parsed
  obtain ⟨fileOffset, -, parsed⟩ := bind_ok parsed
  obtain ⟨virtualAddress, -, parsed⟩ := bind_ok parsed
  obtain ⟨physicalAddress, -, parsed⟩ := bind_ok parsed
  obtain ⟨fileSize, -, parsed⟩ := bind_ok parsed
  obtain ⟨memorySize, -, parsed⟩ := bind_ok parsed
  obtain ⟨alignment, -, parsed⟩ := bind_ok parsed
  exact sound.accept (rejectWhen_bind_ok parsed).2

theorem Found.Sound.headers {final : Found} (sound : found.Sound file entry)
    (parsed : parseProgramHeaders file entry offset count index found = .ok final) :
    final.Sound file entry := by
  induction count generalizing index found with
  | zero =>
    cases parsed
    exact sound
  | succ count hypothesis =>
    obtain ⟨next, isNext, rest⟩ := bind_ok parsed
    exact hypothesis (sound.header isNext) rest

/-- What the parser accepts is a sequence of apart segments of the file with an executable
entry. -/
theorem parse_accepted {image : Image} (parsed : parse file = .ok image) : image.Accepted file := by
  unfold parse at parsed
  obtain ⟨-, -, parsed⟩ := bind_ok parsed
  obtain ⟨entry, -, parsed⟩ := bind_ok parsed
  obtain ⟨programHeaderOffset, -, parsed⟩ := bind_ok parsed
  obtain ⟨sectionHeaderOffset, -, parsed⟩ := bind_ok parsed
  obtain ⟨flags, -, parsed⟩ := bind_ok parsed
  obtain ⟨-, parsed⟩ := rejectWhen_bind_ok parsed
  obtain ⟨headerSize, -, parsed⟩ := bind_ok parsed
  obtain ⟨programHeaderSize, -, parsed⟩ := bind_ok parsed
  obtain ⟨-, parsed⟩ := rejectWhen_bind_ok parsed
  obtain ⟨count, -, parsed⟩ := bind_ok parsed
  obtain ⟨-, parsed⟩ := rejectWhen_bind_ok parsed
  obtain ⟨-, -, parsed⟩ := bind_ok parsed
  obtain ⟨-, parsed⟩ := rejectWhen_bind_ok parsed
  obtain ⟨-, parsed⟩ := rejectWhen_bind_ok parsed
  obtain ⟨found, isFound, parsed⟩ := bind_ok parsed
  obtain ⟨complete, parsed⟩ := rejectWhen_bind_ok parsed
  cases parsed
  have empty : ({} : Found).Sound file entry := ⟨nofun, List.Pairwise.nil, nofun, nofun⟩
  have sound := empty.headers isFound
  exact ⟨sound.fits, sound.rising, sound.entered (by simpa using (not_or.mp complete).2)⟩

end Proofs

end ZigOs.Elf64
