/-
This file proves when the geometry of a boot sector is sound. The parser computes
with fields nobody has vouched for, and it checks that the areas in front of the data
leave room for data. It does not check that their sum fits 32 bits, nor that a table
has an entry for every cluster. With these two, and a root cluster whose address fits,
the areas of an accepted volume are what they should be, and without them they are
not.
-/

import ZigOs.Fat.Volume
import ZigOs.Lib.Checked
import Mathlib.Order.Interval.Set.LinearOrder

namespace ZigOs.Fat

open Checked

open Checked (add mul sub)

/-! ### The parser in checked arithmetic -/

/-- The address of the root directory. -/
def checkedRootDirectory (kind : Kind) (partitionLba firstDataLba reserved fatCount sectorsPerFat
    rootCluster sectorsPerCluster : Nat) : Checked.Outcome Nat :=
  if kind = .fat32 then do
    let cluster ← sub rootCluster 2
    let offset ← mul 64 cluster sectorsPerCluster
    add 64 firstDataLba offset
  else do
    let tables ← mul 64 fatCount sectorsPerFat
    let firstFatLba ← add 64 partitionLba reserved
    add 64 firstFatLba tables

/-- What the parser does with the sectors in front of the data. -/
def finishGeometry (sector : Sector) (partitionLba metadata : Nat) :
    Checked.Outcome (Option Volume) :=
  let bytesPerSector := read16 sector 11
  let sectorsPerCluster := (sector 13).toNat
  let totalSectors := if read16 sector 19 ≠ 0 then read16 sector 19 else read32 sector 32
  let sectorsPerFat := if read16 sector 22 ≠ 0 then read16 sector 22 else read32 sector 36
  let rootDirectorySectors := (read16 sector 17 * 32 + bytesPerSector - 1) / bytesPerSector
  if totalSectors ≤ metadata then return none
  else do
    let dataSectors ← sub totalSectors metadata
    let clusterCount := dataSectors / sectorsPerCluster
    let kind := kindOf clusterCount
    let rootCluster := if kind = .fat32 then read32 sector 44 else 0
    if kind = .fat32 ∧ read16 sector 17 ≠ 0 then return none
    else if kind = .fat32 ∧ rootCluster < 2 then return none
    else do
      let firstFatLba ← add 64 partitionLba (read16 sector 14)
      let firstDataLba ← add 64 partitionLba metadata
      let rootDirectoryLba ← checkedRootDirectory kind partitionLba firstDataLba (read16 sector 14)
        (sector 16).toNat sectorsPerFat rootCluster sectorsPerCluster
      return some
        { kind
          partitionLba
          bytesPerSector
          sectorsPerCluster
          reservedSectorCount := read16 sector 14
          fatCount := (sector 16).toNat
          sectorsPerFat
          rootEntryCount := read16 sector 17
          rootDirectorySectors
          rootCluster
          totalSectors
          dataSectors
          clusterCount
          firstFatLba
          firstDataLba
          rootDirectoryLba }

/-- What follows the checks of the single fields, with every operation in its width. -/
def checkedGeometry (sector : Sector) (partitionLba : Nat) : Checked.Outcome (Option Volume) := do
  let bytesPerSector := read16 sector 11
  let sectorsPerFat := if read16 sector 22 ≠ 0 then read16 sector 22 else read32 sector 36
  let rootDirectoryBytes ← mul 32 (read16 sector 17) 32
  let padded ← add 32 rootDirectoryBytes bytesPerSector
  let padded ← sub padded 1
  let rootDirectorySectors := padded / bytesPerSector
  let tables ← mul 32 (sector 16).toNat sectorsPerFat
  let reservedAndTables ← add 32 (read16 sector 14) tables
  let metadata ← add 32 reservedAndTables rootDirectorySectors
  finishGeometry sector partitionLba metadata

/-- The parser, ending with the first operation whose result does not fit. -/
def checkedBootSector (sector : Sector) (length partitionLba : Nat) :
    Checked.Outcome (Option Volume) :=
  let volume := decodeVolume sector partitionLba
  if length < 512 ∨ read16 sector 510 ≠ 0xAA55 then .ok none
  else if validBytesPerSector volume.bytesPerSector = false then .ok none
  else if isPowerOfTwo volume.sectorsPerCluster = false then .ok none
  else if volume.reservedSectorCount = 0 ∨ volume.fatCount = 0 then .ok none
  else if volume.totalSectors = 0 ∨ volume.sectorsPerFat = 0 then .ok none
  else checkedGeometry sector partitionLba

/-! ### The quantities behind the checks -/

theorem read16_lt (bytes : Sector) (offset : Nat) : read16 bytes offset < 2 ^ 16 := by
  have low := (bytes offset).toNat_lt
  have high := (bytes (offset + 1)).toNat_lt
  unfold read16
  omega

theorem read32_lt (bytes : Sector) (offset : Nat) : read32 bytes offset < 2 ^ 32 := by
  have low := read16_lt bytes offset
  have high := read16_lt bytes (offset + 2)
  unfold read32
  omega

variable {value : Nat}

theorem validBytesPerSector_cases (valid : validBytesPerSector value = true) :
    value = 512 ∨ value = 1024 ∨ value = 2048 ∨ value = 4096 := by
  simp only [validBytesPerSector, Bool.or_eq_true, beq_iff_eq] at valid
  tauto

theorem isPowerOfTwo_pos (power : isPowerOfTwo value = true) : 0 < value := by
  simp only [isPowerOfTwo, Bool.and_eq_true, bne_iff_ne, ne_eq] at power
  exact Nat.pos_of_ne_zero power.1

/-- The sectors in front of the data, exactly. -/
def metadataSum (sector : Sector) (partitionLba : Nat) : Nat :=
  let volume := decodeVolume sector partitionLba
  volume.reservedSectorCount + volume.fatCount * volume.sectorsPerFat + volume.rootDirectorySectors

/-- The single fields pass the checks that need no arithmetic. -/
structure FieldsPass (sector : Sector) (length partitionLba : Nat) : Prop where
  signature : ¬(length < 512 ∨ read16 sector 510 ≠ 0xAA55)
  sectorBytes : validBytesPerSector (decodeVolume sector partitionLba).bytesPerSector = true
  clusterSectors : isPowerOfTwo (decodeVolume sector partitionLba).sectorsPerCluster = true
  tables : ¬((decodeVolume sector partitionLba).reservedSectorCount = 0 ∨
    (decodeVolume sector partitionLba).fatCount = 0)
  sizes : ¬((decodeVolume sector partitionLba).totalSectors = 0 ∨
    (decodeVolume sector partitionLba).sectorsPerFat = 0)

/-- The volume is refused for what its kind asks of the root directory. -/
def RootRefused (volume : Volume) : Prop :=
  volume.kind = .fat32 ∧ (volume.rootEntryCount ≠ 0 ∨ volume.rootCluster < 2)

/-- The address of the root cluster of a FAT32 volume fits 64 bits. -/
def RootFits (volume : Volume) : Prop :=
  volume.kind = .fat32 →
    volume.firstDataLba + (volume.rootCluster - 2) * volume.sectorsPerCluster < 2 ^ 64

instance (volume : Volume) : Decidable (RootFits volume) :=
  inferInstanceAs (Decidable (_ → _))

variable {sector : Sector} {length partitionLba : Nat}

theorem checkedBootSector_of_refused (refused : ¬FieldsPass sector length partitionLba) :
    checkedBootSector sector length partitionLba = .ok none := by
  unfold checkedBootSector
  dsimp only
  split
  · rfl
  split
  · rfl
  split
  · rfl
  split
  · rfl
  split
  · rfl
  · rename_i signature sectorBytes clusterSectors tables sizes
    exact absurd ⟨signature, Bool.eq_true_of_not_eq_false sectorBytes,
      Bool.eq_true_of_not_eq_false clusterSectors, tables, sizes⟩ refused

theorem checkedBootSector_of_pass (pass : FieldsPass sector length partitionLba) :
    checkedBootSector sector length partitionLba = checkedGeometry sector partitionLba := by
  unfold checkedBootSector
  rw [if_neg pass.signature, if_neg (Bool.not_eq_false _ ▸ pass.sectorBytes),
    if_neg (Bool.not_eq_false _ ▸ pass.clusterSectors), if_neg pass.tables, if_neg pass.sizes]

section Geometry

variable {sector : Sector} {length partitionLba : Nat} (pass : FieldsPass sector length partitionLba)
include pass

/-- The steps up to the tables never leave their range. -/
theorem checkedGeometry_eq : checkedGeometry sector partitionLba = (do
    let tables ← mul 32 (decodeVolume sector partitionLba).fatCount
      (decodeVolume sector partitionLba).sectorsPerFat
    let reservedAndTables ← add 32 (decodeVolume sector partitionLba).reservedSectorCount tables
    let metadata ← add 32 reservedAndTables (decodeVolume sector partitionLba).rootDirectorySectors
    finishGeometry sector partitionLba metadata) := by
  have entries := read16_lt sector 17
  have sectorBytes : 512 ≤ read16 sector 11 ∧ read16 sector 11 ≤ 4096 := by
    have cases := validBytesPerSector_cases pass.sectorBytes
    have same : (decodeVolume sector partitionLba).bytesPerSector = read16 sector 11 := rfl
    omega
  unfold checkedGeometry
  rw [mul_bind (by omega), add_bind (by omega), sub_bind (by omega)]
  rfl

theorem checkedGeometry_overflow (exceeds : 2 ^ 32 ≤ metadataSum sector partitionLba) :
    checkedGeometry sector partitionLba = .error .overflow := by
  unfold metadataSum at exceeds
  dsimp only at exceeds
  rw [checkedGeometry_eq pass]
  by_cases tables : (decodeVolume sector partitionLba).fatCount *
      (decodeVolume sector partitionLba).sectorsPerFat < 2 ^ 32
  · rw [mul_bind tables]
    by_cases sum : (decodeVolume sector partitionLba).reservedSectorCount +
        (decodeVolume sector partitionLba).fatCount *
          (decodeVolume sector partitionLba).sectorsPerFat < 2 ^ 32
    · rw [add_bind sum, add_bind_overflow exceeds]
    · rw [add_bind_overflow (Nat.not_lt.mp sum)]
  · rw [mul_bind_overflow (Nat.not_lt.mp tables)]

theorem checkedGeometry_finish (fits : metadataSum sector partitionLba < 2 ^ 32) :
    checkedGeometry sector partitionLba =
      finishGeometry sector partitionLba (metadataSum sector partitionLba) := by
  have sum := fits
  unfold metadataSum at sum
  dsimp only at sum
  rw [checkedGeometry_eq pass, mul_bind (by omega), add_bind (by omega),
    add_bind sum]
  rfl

end Geometry

/-! ### The address of the root directory -/

section Root

variable {kind : Kind} {partitionLba firstDataLba reserved fatCount sectorsPerFat rootCluster
  sectorsPerCluster : Nat}

theorem checkedRootDirectory_fat32 (fat32 : kind = .fat32) (cluster : 2 ≤ rootCluster)
    (offset : (rootCluster - 2) * sectorsPerCluster < 2 ^ 64)
    (fits : firstDataLba + (rootCluster - 2) * sectorsPerCluster < 2 ^ 64) :
    checkedRootDirectory kind partitionLba firstDataLba reserved fatCount sectorsPerFat rootCluster
      sectorsPerCluster = .ok (firstDataLba + (rootCluster - 2) * sectorsPerCluster) := by
  unfold checkedRootDirectory
  rw [if_pos fat32, sub_bind cluster, mul_bind offset]
  exact if_pos fits

theorem checkedRootDirectory_fat32_overflow (fat32 : kind = .fat32) (cluster : 2 ≤ rootCluster)
    (offset : (rootCluster - 2) * sectorsPerCluster < 2 ^ 64)
    (exceeds : 2 ^ 64 ≤ firstDataLba + (rootCluster - 2) * sectorsPerCluster) :
    checkedRootDirectory kind partitionLba firstDataLba reserved fatCount sectorsPerFat rootCluster
      sectorsPerCluster = .error .overflow := by
  unfold checkedRootDirectory
  rw [if_pos fat32, sub_bind cluster, mul_bind offset]
  exact if_neg (Nat.not_lt.mpr exceeds)

theorem checkedRootDirectory_table (table : kind ≠ .fat32)
    (fits : partitionLba + reserved + fatCount * sectorsPerFat < 2 ^ 64) :
    checkedRootDirectory kind partitionLba firstDataLba reserved fatCount sectorsPerFat rootCluster
      sectorsPerCluster = .ok (partitionLba + reserved + fatCount * sectorsPerFat) := by
  unfold checkedRootDirectory
  rw [if_neg table, mul_bind (by omega), add_bind (by omega)]
  exact if_pos fits

variable {sector : Sector}

theorem decodeVolume_root_fat32 (fat32 : (decodeVolume sector partitionLba).kind = .fat32) :
    (decodeVolume sector partitionLba).rootDirectoryLba =
      (decodeVolume sector partitionLba).firstDataLba +
        ((decodeVolume sector partitionLba).rootCluster - 2) *
          (decodeVolume sector partitionLba).sectorsPerCluster :=
  if_pos fat32

theorem decodeVolume_root_table (table : (decodeVolume sector partitionLba).kind ≠ .fat32) :
    (decodeVolume sector partitionLba).rootDirectoryLba =
      partitionLba + (decodeVolume sector partitionLba).reservedSectorCount +
        (decodeVolume sector partitionLba).fatCount *
          (decodeVolume sector partitionLba).sectorsPerFat :=
  if_neg table

/-- A root cluster is at most 2^32 clusters of 255 sectors away. -/
theorem decodeVolume_offset_lt (sector : Sector) (partitionLba : Nat) :
    ((decodeVolume sector partitionLba).rootCluster - 2) *
      (decodeVolume sector partitionLba).sectorsPerCluster < 2 ^ 64 := by
  have cluster : (decodeVolume sector partitionLba).rootCluster < 2 ^ 32 := by
    by_cases fat32 : (decodeVolume sector partitionLba).kind = .fat32
    · have read : (decodeVolume sector partitionLba).rootCluster = read32 sector 44 := if_pos fat32
      exact read ▸ read32_lt sector 44
    · have unused : (decodeVolume sector partitionLba).rootCluster = 0 := if_neg fat32
      exact unused ▸ by decide
  have sectors : (decodeVolume sector partitionLba).sectorsPerCluster < 2 ^ 8 := (sector 13).toNat_lt
  calc ((decodeVolume sector partitionLba).rootCluster - 2) *
        (decodeVolume sector partitionLba).sectorsPerCluster
      ≤ 2 ^ 32 * 2 ^ 8 := Nat.mul_le_mul (by omega) sectors.le
    _ < 2 ^ 64 := by decide

end Root

section Finish

variable {sector : Sector} {partitionLba : Nat}

theorem finishGeometry_small
    (small : (decodeVolume sector partitionLba).totalSectors ≤ metadataSum sector partitionLba) :
    finishGeometry sector partitionLba (metadataSum sector partitionLba) = .ok none :=
  if_pos small

variable (fits : metadataSum sector partitionLba < 2 ^ 32)
include fits

theorem metadataSectors_eq :
    metadataSectors sector (decodeVolume sector partitionLba).sectorsPerFat
      (decodeVolume sector partitionLba).rootDirectorySectors = metadataSum sector partitionLba :=
  Nat.mod_eq_of_lt fits

variable (room : ¬(decodeVolume sector partitionLba).totalSectors ≤ metadataSum sector partitionLba)
include room

theorem finishGeometry_eq : finishGeometry sector partitionLba (metadataSum sector partitionLba) =
    if (decodeVolume sector partitionLba).kind = .fat32 ∧
        (decodeVolume sector partitionLba).rootEntryCount ≠ 0 then .ok none
    else if (decodeVolume sector partitionLba).kind = .fat32 ∧
        (decodeVolume sector partitionLba).rootCluster < 2 then .ok none
    else (do
      let firstFatLba ← add 64 partitionLba (decodeVolume sector partitionLba).reservedSectorCount
      let firstDataLba ← add 64 partitionLba (metadataSum sector partitionLba)
      let rootDirectoryLba ← checkedRootDirectory (decodeVolume sector partitionLba).kind partitionLba
        firstDataLba (decodeVolume sector partitionLba).reservedSectorCount
        (decodeVolume sector partitionLba).fatCount (decodeVolume sector partitionLba).sectorsPerFat
        (decodeVolume sector partitionLba).rootCluster
        (decodeVolume sector partitionLba).sectorsPerCluster
      return some { decodeVolume sector partitionLba with
        firstFatLba, firstDataLba, rootDirectoryLba }) := by
  refine (if_neg room).trans ?_
  refine (sub_bind (Nat.le_of_not_le room) _).trans ?_
  rw [← metadataSectors_eq fits]
  rfl

theorem finishGeometry_refused (refused : RootRefused (decodeVolume sector partitionLba)) :
    finishGeometry sector partitionLba (metadataSum sector partitionLba) = .ok none := by
  rw [finishGeometry_eq fits room]
  obtain ⟨fat32, entries | cluster⟩ := refused
  · rw [if_pos ⟨fat32, entries⟩]
  · split
    · rfl
    · rw [if_pos ⟨fat32, cluster⟩]

variable (low : partitionLba + 2 ^ 32 < 2 ^ 64)
  (accepted : ¬RootRefused (decodeVolume sector partitionLba))
include low accepted

/-- What is left to compute is the address of the root directory. -/
theorem finishGeometry_root :
    finishGeometry sector partitionLba (metadataSum sector partitionLba) = (do
      let rootDirectoryLba ← checkedRootDirectory (decodeVolume sector partitionLba).kind partitionLba
        (decodeVolume sector partitionLba).firstDataLba
        (decodeVolume sector partitionLba).reservedSectorCount
        (decodeVolume sector partitionLba).fatCount (decodeVolume sector partitionLba).sectorsPerFat
        (decodeVolume sector partitionLba).rootCluster
        (decodeVolume sector partitionLba).sectorsPerCluster
      return some { decodeVolume sector partitionLba with rootDirectoryLba }) := by
  have sum := fits
  unfold metadataSum at sum
  dsimp only at sum
  have first : (decodeVolume sector partitionLba).firstDataLba =
      partitionLba + metadataSum sector partitionLba := by
    rw [← metadataSectors_eq fits]
    rfl
  rw [finishGeometry_eq fits room, if_neg fun both => accepted ⟨both.1, .inl both.2⟩,
    if_neg fun both => accepted ⟨both.1, .inr both.2⟩, add_bind (by omega),
    add_bind (by omega), ← first]
  rfl

theorem checkedGeometry_root (pass : FieldsPass sector length partitionLba) :
    checkedGeometry sector partitionLba =
      if RootFits (decodeVolume sector partitionLba) then .ok (some (decodeVolume sector partitionLba))
      else .error .overflow := by
  rw [checkedGeometry_finish pass fits, finishGeometry_root fits room low accepted]
  by_cases kind : (decodeVolume sector partitionLba).kind = .fat32
  · have cluster : 2 ≤ (decodeVolume sector partitionLba).rootCluster :=
      Nat.le_of_not_lt fun small => accepted ⟨kind, .inr small⟩
    have address := @decodeVolume_root_fat32 partitionLba sector kind
    by_cases root : RootFits (decodeVolume sector partitionLba)
    · rw [if_pos root, checkedRootDirectory_fat32 kind cluster (decodeVolume_offset_lt sector _)
        (root kind), ← address]
      rfl
    · have exceeds := Classical.not_imp.mp root
      rw [if_neg root, checkedRootDirectory_fat32_overflow kind cluster
        (decodeVolume_offset_lt sector _) (Nat.not_lt.mp exceeds.2)]
      rfl
  · have sum := fits
    unfold metadataSum at sum
    dsimp only at sum
    have root : RootFits (decodeVolume sector partitionLba) := fun fat32 => absurd fat32 kind
    rw [if_pos root, checkedRootDirectory_table kind (by omega),
      ← decodeVolume_root_table kind]
    rfl

end Finish

/-! ### Sound geometry -/

/-- The sectors of a cluster. -/
def Volume.clusterSectors (volume : Volume) (cluster : Nat) : Set Nat :=
  { lba | ∃ first ∈ clusterFirstLba volume cluster,
    first ≤ lba ∧ lba < first + volume.sectorsPerCluster }

/-- The three areas of a volume: the tables, the root directory, and the data. -/
def Volume.areas (volume : Volume) : List (Set Nat) :=
  [Set.Ico volume.firstFatLba (volume.firstFatLba + volume.fatCount * volume.sectorsPerFat),
    Set.Ico volume.rootDirectoryLba (volume.rootDirectoryLba + volume.rootDirectorySectors),
    Set.Ico volume.firstDataLba (volume.firstDataLba + volume.dataSectors)]

/-- A geometry every later lookup can be trusted with: each entry lies in the first table, each
cluster in the volume, and neither clusters nor areas meet. -/
structure Volume.Sound (volume : Volume) : Prop where
  entries : ∀ cluster, 2 ≤ cluster → cluster < volume.clusterCount + 2 →
    ∀ location ∈ fatEntryLocation volume cluster, volume.firstFatLba ≤ location.lba ∧
      location.lba < volume.firstFatLba + volume.sectorsPerFat
  clusters : ∀ cluster, 2 ≤ cluster → cluster < volume.clusterCount + 2 →
    ∃ first ∈ clusterFirstLba volume cluster,
      first + volume.sectorsPerCluster ≤ volume.partitionLba + volume.totalSectors
  apart : ∀ cluster other, cluster ≠ other →
    Disjoint (volume.clusterSectors cluster) (volume.clusterSectors other)
  areas : volume.areas.Pairwise Disjoint

/-- How the fields of a decoded volume depend on each other. -/
structure Volume.Laid (volume : Volume) : Prop where
  sectorBytes : volume.bytesPerSector = 512 ∨ volume.bytesPerSector = 1024 ∨
    volume.bytesPerSector = 2048 ∨ volume.bytesPerSector = 4096
  clusterSectors : 0 < volume.sectorsPerCluster
  tables : 0 < volume.sectorsPerFat
  data : volume.firstDataLba = volume.firstFatLba + volume.fatCount * volume.sectorsPerFat +
    volume.rootDirectorySectors
  ends : volume.firstDataLba + volume.dataSectors = volume.partitionLba + volume.totalSectors
  count : volume.clusterCount = volume.dataSectors / volume.sectorsPerCluster
  root : volume.kind ≠ .fat32 → volume.rootDirectoryLba =
    volume.firstFatLba + volume.fatCount * volume.sectorsPerFat
  rootless : volume.kind = .fat32 → volume.rootDirectorySectors = 0

/-- The table has a sector for the entry of the last cluster. -/
def Volume.TableReaches (volume : Volume) : Prop :=
  fatOffset volume.kind (volume.clusterCount + 1) / volume.bytesPerSector < volume.sectorsPerFat

section Laid

variable {volume : Volume} {cluster : Nat}

theorem clusterFirstLba_of_range (least : 2 ≤ cluster) (most : cluster < volume.clusterCount + 2) :
    clusterFirstLba volume cluster =
      some (volume.firstDataLba + (cluster - 2) * volume.sectorsPerCluster) :=
  if_neg (by omega)

theorem mem_clusterSectors {lba : Nat} : lba ∈ volume.clusterSectors cluster ↔
    2 ≤ cluster ∧ cluster < volume.clusterCount + 2 ∧
      volume.firstDataLba + (cluster - 2) * volume.sectorsPerCluster ≤ lba ∧
      lba < volume.firstDataLba + (cluster - 2) * volume.sectorsPerCluster +
        volume.sectorsPerCluster := by
  by_cases range : 2 ≤ cluster ∧ cluster < volume.clusterCount + 2
  · simp [Volume.clusterSectors, clusterFirstLba_of_range range.1 range.2, range]
  · have outside : clusterFirstLba volume cluster = none := if_pos (by omega)
    simp only [Volume.clusterSectors, outside, Option.mem_def, reduceCtorEq, false_and, exists_false,
      Set.ofPred_false, Set.mem_empty_iff_false, false_iff]
    tauto

variable {other : Nat}

theorem fatOffset_mono (kind : Kind) (least : cluster ≤ other) :
    fatOffset kind cluster ≤ fatOffset kind other := by
  cases kind <;> simp only [fatOffset] <;> omega

theorem fatEntryLocation_lba {location : FatEntryLocation}
    (found : fatEntryLocation volume cluster = some location) : location.lba =
      volume.firstFatLba + fatOffset volume.kind cluster / volume.bytesPerSector := by
  unfold fatEntryLocation at found
  dsimp only at found
  split at found
  · cases found
  split at found
  · cases found
  · cases found
    rfl

/-- A table that reaches the last cluster reaches every cluster. -/
theorem Volume.TableReaches.entries (reaches : volume.TableReaches)
    (most : cluster < volume.clusterCount + 2) (location : FatEntryLocation)
    (found : location ∈ fatEntryLocation volume cluster) :
    volume.firstFatLba ≤ location.lba ∧
      location.lba < volume.firstFatLba + volume.sectorsPerFat := by
  have last : fatOffset volume.kind cluster / volume.bytesPerSector ≤
      fatOffset volume.kind (volume.clusterCount + 1) / volume.bytesPerSector :=
    Nat.div_le_div_right (fatOffset_mono _ (by omega))
  rw [fatEntryLocation_lba found]
  exact ⟨Nat.le_add_right _ _, Nat.add_lt_add_left (Nat.lt_of_le_of_lt last reaches) _⟩

variable (laid : volume.Laid)
include laid

theorem Volume.Laid.cluster_inside (least : 2 ≤ cluster)
    (most : cluster < volume.clusterCount + 2) :
    volume.firstDataLba + (cluster - 2) * volume.sectorsPerCluster + volume.sectorsPerCluster ≤
      volume.partitionLba + volume.totalSectors := by
  have before : (cluster - 2 + 1) * volume.sectorsPerCluster ≤
      volume.clusterCount * volume.sectorsPerCluster :=
    Nat.mul_le_mul_right _ (by omega)
  have whole : volume.clusterCount * volume.sectorsPerCluster ≤ volume.dataSectors :=
    laid.count ▸ Nat.div_mul_le_self _ _
  have ends := laid.ends
  rw [Nat.add_mul, Nat.one_mul] at before
  omega

omit laid in
/-- A cluster ends where the next begins, or earlier. -/
theorem cluster_before {other : Nat} (least : 2 ≤ cluster) (less : cluster < other) :
    volume.firstDataLba + (cluster - 2) * volume.sectorsPerCluster + volume.sectorsPerCluster ≤
      volume.firstDataLba + (other - 2) * volume.sectorsPerCluster := by
  have before : (cluster - 2 + 1) * volume.sectorsPerCluster ≤
      (other - 2) * volume.sectorsPerCluster :=
    Nat.mul_le_mul_right _ (by omega)
  rw [Nat.add_mul, Nat.one_mul] at before
  omega

omit laid in
theorem clusterSectors_disjoint (distinct : cluster ≠ other) :
    Disjoint (volume.clusterSectors cluster) (volume.clusterSectors other) := by
  refine Set.disjoint_left.mpr fun lba inside meets => ?_
  obtain ⟨least, -, begins, ends⟩ := mem_clusterSectors.mp inside
  obtain ⟨otherLeast, -, otherBegins, otherEnds⟩ := mem_clusterSectors.mp meets
  rcases Nat.lt_or_gt_of_ne distinct with less | greater
  · exact absurd (@cluster_before volume _ _ least less) (by omega)
  · exact absurd (@cluster_before volume _ _ otherLeast greater) (by omega)

theorem Volume.Laid.areas_disjoint : volume.areas.Pairwise Disjoint := by
  have data := laid.data
  have root : volume.rootDirectorySectors ≠ 0 → volume.rootDirectoryLba =
      volume.firstFatLba + volume.fatCount * volume.sectorsPerFat :=
    fun some => laid.root fun fat32 => some (laid.rootless fat32)
  simp only [Volume.areas, List.pairwise_cons, List.mem_cons, List.not_mem_nil, or_false,
    forall_eq_or_imp, forall_eq, Set.Ico_disjoint_Ico, IsEmpty.forall_iff, implies_true,
    List.Pairwise.nil, and_true]
  refine ⟨⟨?_, ?_⟩, ?_⟩ <;> omega

/-- Whether the geometry is sound depends on the table alone. -/
theorem Volume.Laid.sound_of_reaches (reaches : volume.TableReaches) : volume.Sound where
  entries _ _ most location found := reaches.entries most location found
  clusters _ least most :=
    ⟨_, clusterFirstLba_of_range least most, laid.cluster_inside least most⟩
  apart _ _ distinct := clusterSectors_disjoint distinct
  areas := laid.areas_disjoint

omit laid in
theorem fatEntryLocation_of_fits (least : 2 ≤ cluster) (most : cluster < volume.clusterCount + 2)
    (fits : fatOffset volume.kind cluster % volume.bytesPerSector + entryBytes volume.kind ≤
      volume.bytesPerSector) :
    ∃ location, fatEntryLocation volume cluster = some location :=
  ⟨_, (if_neg (by omega)).trans (if_neg (Nat.not_lt.mpr fits))⟩

omit laid in
/-- Of two neighbouring entries behind a sector boundary, one lies inside its sector. -/
theorem short_offset (kind : Kind) {count sectorBytes tableSectors : Nat}
    (sizes : sectorBytes = 512 ∨ sectorBytes = 1024 ∨ sectorBytes = 2048 ∨ sectorBytes = 4096)
    (tables : 0 < tableSectors)
    (short : tableSectors ≤ fatOffset kind (count + 1) / sectorBytes) :
    ∃ cluster, 2 ≤ cluster ∧ cluster < count + 2 ∧
      fatOffset kind cluster % sectorBytes + entryBytes kind ≤ sectorBytes ∧
      tableSectors ≤ fatOffset kind cluster / sectorBytes := by
  have behind : 1 ≤ fatOffset kind (count + 1) / sectorBytes := Nat.le_trans tables short
  cases kind with
  | fat12 =>
    simp only [fatOffset, entryBytes] at short behind ⊢
    by_cases inside : (count + 1 + (count + 1) / 2) % sectorBytes + 2 ≤ sectorBytes
    · refine ⟨count + 1, ?_, Nat.lt_succ_self _, inside, short⟩
      rcases sizes with rfl | rfl | rfl | rfl <;> omega
    · -- the last entry straddles, so the one before ends one or two bytes earlier
      have step : count + 1 + (count + 1) / 2 = count + count / 2 + 1 ∨
          count + 1 + (count + 1) / 2 = count + count / 2 + 2 := by omega
      have large : 4 ≤ count := by rcases sizes with rfl | rfl | rfl | rfl <;> omega
      have fits : (count + count / 2) % sectorBytes + 2 ≤ sectorBytes ∧
          tableSectors ≤ (count + count / 2) / sectorBytes := by
        generalize count + 1 + (count + 1) / 2 = last at *
        generalize count + count / 2 = earlier at *
        rcases sizes with rfl | rfl | rfl | rfl <;> omega
      exact ⟨count, by omega, by omega, fits⟩
  | fat16 =>
    simp only [fatOffset, entryBytes] at short behind ⊢
    refine ⟨count + 1, ?_, Nat.lt_succ_self _, ?_, short⟩ <;>
      rcases sizes with rfl | rfl | rfl | rfl <;> omega
  | fat32 =>
    simp only [fatOffset, entryBytes] at short behind ⊢
    refine ⟨count + 1, ?_, Nat.lt_succ_self _, ?_, short⟩ <;>
      rcases sizes with rfl | rfl | rfl | rfl <;> omega

theorem Volume.Laid.sound_iff : volume.Sound ↔ volume.TableReaches := by
  refine ⟨fun sound => ?_, laid.sound_of_reaches⟩
  by_contra short
  obtain ⟨cluster, least, most, fits, behind⟩ := short_offset volume.kind laid.sectorBytes
    laid.tables (Nat.not_lt.mp short)
  obtain ⟨location, found⟩ := fatEntryLocation_of_fits least most fits
  have inside := (sound.entries cluster least most location found).2
  rw [fatEntryLocation_lba found] at inside
  exact absurd behind (Nat.not_le.mpr (Nat.lt_of_add_lt_add_left inside))

end Laid

/-! ### When the parser is sound -/

theorem decodeVolume_laid (pass : FieldsPass sector length partitionLba)
    (fits : metadataSum sector partitionLba < 2 ^ 32)
    (room : ¬(decodeVolume sector partitionLba).totalSectors ≤ metadataSum sector partitionLba)
    (accepted : ¬RootRefused (decodeVolume sector partitionLba)) :
    (decodeVolume sector partitionLba).Laid where
  sectorBytes := validBytesPerSector_cases pass.sectorBytes
  clusterSectors := isPowerOfTwo_pos pass.clusterSectors
  tables := Nat.pos_of_ne_zero fun none => pass.sizes (.inr none)
  data := by
    have first : (decodeVolume sector partitionLba).firstDataLba =
        partitionLba + metadataSum sector partitionLba := by
      rw [← metadataSectors_eq fits]
      rfl
    have firstFat : (decodeVolume sector partitionLba).firstFatLba =
        partitionLba + (decodeVolume sector partitionLba).reservedSectorCount := rfl
    rw [first, firstFat, metadataSum]
    omega
  ends := by
    have first : (decodeVolume sector partitionLba).firstDataLba =
        partitionLba + metadataSum sector partitionLba := by
      rw [← metadataSectors_eq fits]
      rfl
    have rest : (decodeVolume sector partitionLba).dataSectors =
        (decodeVolume sector partitionLba).totalSectors - metadataSum sector partitionLba := by
      rw [← metadataSectors_eq fits]
      rfl
    have start : (decodeVolume sector partitionLba).partitionLba = partitionLba := rfl
    rw [first, rest, start]
    omega
  count := rfl
  root := decodeVolume_root_table
  rootless := fun fat32 => by
    have entries : (decodeVolume sector partitionLba).rootEntryCount = 0 :=
      of_not_not fun some => accepted ⟨fat32, .inl some⟩
    have sectorBytes := validBytesPerSector_cases pass.sectorBytes
    have sectors : (decodeVolume sector partitionLba).rootDirectorySectors =
      ((decodeVolume sector partitionLba).rootEntryCount * 32 +
        (decodeVolume sector partitionLba).bytesPerSector - 1) /
          (decodeVolume sector partitionLba).bytesPerSector := rfl
    rw [sectors, entries, Nat.zero_mul, Nat.zero_add]
    exact Nat.div_eq_of_lt (by omega)

/-- The parser never leaves the range of its arithmetic, and what it accepts is sound. -/
def GeometrySound (sector : Sector) (length partitionLba : Nat) : Prop :=
  ∃ result, checkedBootSector sector length partitionLba = .ok result ∧
    ∀ volume ∈ result, volume.Sound

/-- What the parser leaves to the boot sector: the sectors in front of the data can be counted in
32 bits, the root cluster of a volume it accepts has an address, and the table reaches the last
cluster. -/
def FieldsAgree (sector : Sector) (length partitionLba : Nat) : Prop :=
  FieldsPass sector length partitionLba →
    metadataSum sector partitionLba < 2 ^ 32 ∧
    (metadataSum sector partitionLba < (decodeVolume sector partitionLba).totalSectors →
      ¬RootRefused (decodeVolume sector partitionLba) →
        RootFits (decodeVolume sector partitionLba) ∧
        (decodeVolume sector partitionLba).TableReaches)

section Sound

variable {sector : Sector} {length partitionLba : Nat}

theorem parseBootSector_of_refused (refused : ¬FieldsPass sector length partitionLba) :
    parseBootSector sector length partitionLba = none := by
  unfold parseBootSector
  dsimp only
  split
  · rfl
  split
  · rfl
  split
  · rfl
  split
  · rfl
  split
  · rfl
  · rename_i signature sectorBytes clusterSectors tables sizes
    exact absurd ⟨signature, Bool.eq_true_of_not_eq_false sectorBytes,
      Bool.eq_true_of_not_eq_false clusterSectors, tables, sizes⟩ refused

variable (pass : FieldsPass sector length partitionLba)
include pass

theorem checkedBootSector_overflow (exceeds : 2 ^ 32 ≤ metadataSum sector partitionLba) :
    checkedBootSector sector length partitionLba = .error .overflow := by
  rw [checkedBootSector_of_pass pass, checkedGeometry_overflow pass exceeds]

variable (fits : metadataSum sector partitionLba < 2 ^ 32)
include fits

theorem checkedBootSector_small
    (small : (decodeVolume sector partitionLba).totalSectors ≤ metadataSum sector partitionLba) :
    checkedBootSector sector length partitionLba = .ok none := by
  rw [checkedBootSector_of_pass pass, checkedGeometry_finish pass fits, finishGeometry_small small]

theorem parseBootSector_small
    (small : (decodeVolume sector partitionLba).totalSectors ≤ metadataSum sector partitionLba) :
    parseBootSector sector length partitionLba = none := by
  unfold parseBootSector
  rw [if_neg pass.signature, if_neg (Bool.not_eq_false _ ▸ pass.sectorBytes),
    if_neg (Bool.not_eq_false _ ▸ pass.clusterSectors), if_neg pass.tables, if_neg pass.sizes,
    metadataSectors_eq fits, if_pos small]

variable (room : ¬(decodeVolume sector partitionLba).totalSectors ≤ metadataSum sector partitionLba)
include room

theorem checkedBootSector_refused (refused : RootRefused (decodeVolume sector partitionLba)) :
    checkedBootSector sector length partitionLba = .ok none := by
  rw [checkedBootSector_of_pass pass, checkedGeometry_finish pass fits,
    finishGeometry_refused fits room refused]

theorem parseBootSector_room : parseBootSector sector length partitionLba =
    if (decodeVolume sector partitionLba).kind = .fat32 ∧
      (decodeVolume sector partitionLba).rootEntryCount ≠ 0 then none
    else if (decodeVolume sector partitionLba).kind = .fat32 ∧
      (decodeVolume sector partitionLba).rootCluster < 2 then none
    else some (decodeVolume sector partitionLba) := by
  unfold parseBootSector
  rw [if_neg pass.signature, if_neg (Bool.not_eq_false _ ▸ pass.sectorBytes),
    if_neg (Bool.not_eq_false _ ▸ pass.clusterSectors), if_neg pass.tables, if_neg pass.sizes,
    metadataSectors_eq fits, if_neg room]

theorem parseBootSector_refused (refused : RootRefused (decodeVolume sector partitionLba)) :
    parseBootSector sector length partitionLba = none := by
  rw [parseBootSector_room pass fits room]
  obtain ⟨fat32, entries | cluster⟩ := refused
  · rw [if_pos ⟨fat32, entries⟩]
  · split
    · rfl
    · rw [if_pos ⟨fat32, cluster⟩]

theorem parseBootSector_accepted (accepted : ¬RootRefused (decodeVolume sector partitionLba)) :
    parseBootSector sector length partitionLba = some (decodeVolume sector partitionLba) := by
  rw [parseBootSector_room pass fits room, if_neg fun both => accepted ⟨both.1, .inl both.2⟩,
    if_neg fun both => accepted ⟨both.1, .inr both.2⟩]

end Sound

section Soundness

variable {sector : Sector} {length partitionLba : Nat} (low : partitionLba + 2 ^ 32 < 2 ^ 64)
include low

/-- Where no operation overflows, the checked parser is the parser. -/
theorem checkedBootSector_parse {result : Option Volume}
    (parsed : checkedBootSector sector length partitionLba = .ok result) :
    parseBootSector sector length partitionLba = result := by
  by_cases pass : FieldsPass sector length partitionLba
  case neg =>
    rw [checkedBootSector_of_refused pass] at parsed
    cases parsed
    exact parseBootSector_of_refused pass
  by_cases fits : metadataSum sector partitionLba < 2 ^ 32
  case neg =>
    rw [checkedBootSector_overflow pass (Nat.not_lt.mp fits)] at parsed
    cases parsed
  by_cases room : (decodeVolume sector partitionLba).totalSectors ≤ metadataSum sector partitionLba
  · rw [checkedBootSector_small pass fits room] at parsed
    cases parsed
    exact parseBootSector_small pass fits room
  by_cases refused : RootRefused (decodeVolume sector partitionLba)
  · rw [checkedBootSector_refused pass fits room refused] at parsed
    cases parsed
    exact parseBootSector_refused pass fits room refused
  · rw [checkedBootSector_of_pass pass, checkedGeometry_root fits room low refused pass] at parsed
    split at parsed
    · cases parsed
      exact parseBootSector_accepted pass fits room refused
    · cases parsed

theorem geometrySound_of_agree (agree : FieldsAgree sector length partitionLba) :
    GeometrySound sector length partitionLba := by
  by_cases pass : FieldsPass sector length partitionLba
  case neg => exact ⟨none, checkedBootSector_of_refused pass, fun _ found => by cases found⟩
  obtain ⟨fits, covers⟩ := agree pass
  by_cases room : (decodeVolume sector partitionLba).totalSectors ≤ metadataSum sector partitionLba
  · exact ⟨none, checkedBootSector_small pass fits room, fun _ found => by cases found⟩
  by_cases refused : RootRefused (decodeVolume sector partitionLba)
  · exact ⟨none, checkedBootSector_refused pass fits room refused, fun _ found => by cases found⟩
  obtain ⟨root, reaches⟩ := covers (Nat.lt_of_not_le room) refused
  refine ⟨some (decodeVolume sector partitionLba), ?_, ?_⟩
  · rw [checkedBootSector_of_pass pass, checkedGeometry_root fits room low refused pass,
      if_pos root]
  · rintro volume ⟨⟩
    exact (decodeVolume_laid pass fits room refused).sound_of_reaches reaches

theorem agree_of_geometrySound (sound : GeometrySound sector length partitionLba) :
    FieldsAgree sector length partitionLba := by
  obtain ⟨result, parsed, accepted⟩ := sound
  intro pass
  have fits : metadataSum sector partitionLba < 2 ^ 32 := by
    by_contra exceeds
    rw [checkedBootSector_overflow pass (Nat.not_lt.mp exceeds)] at parsed
    cases parsed
  refine ⟨fits, fun less admitted => ?_⟩
  have room := Nat.not_le.mpr less
  rw [checkedBootSector_of_pass pass, checkedGeometry_root fits room low admitted pass] at parsed
  split at parsed
  · rename_i root
    cases parsed
    exact ⟨root, (decodeVolume_laid pass fits room admitted).sound_iff.mp (accepted _ rfl)⟩
  · cases parsed

end Soundness

/-- The geometry of a boot sector is sound exactly when its fields agree. -/
theorem geometrySound_iff {sector : Sector} {length partitionLba : Nat}
    (low : partitionLba + 2 ^ 32 < 2 ^ 64) :
    GeometrySound sector length partitionLba ↔ FieldsAgree sector length partitionLba :=
  ⟨agree_of_geometrySound low, geometrySound_of_agree low⟩

/-- A boot sector of 4104 sectors with one table of the given size. -/
def smallVolume (sectorsPerFat : UInt8) : Sector := fun offset =>
  ([(12, 2), (13, 1), (14, 1), (16, 1), (17, 16), (19, 0x08), (20, 0x10), (22, sectorsPerFat),
    (510, 0x55), (511, 0xAA)].lookup offset).getD 0

theorem smallVolume_pass : FieldsPass (smallVolume 1) 512 2048 where
  signature := by decide
  sectorBytes := by decide
  clusterSectors := by decide
  tables := by decide
  sizes := by decide

/-- Sixteen sectors hold the entries of the 4086 clusters. -/
theorem geometrySound_sixteen : GeometrySound (smallVolume 16) 512 2048 :=
  (geometrySound_iff (by decide)).mpr fun _ => ⟨by decide, fun _ _ => ⟨by decide, by
    show _ < _
    decide⟩⟩

/-- A table of one sector is accepted for 4086 clusters. -/
theorem geometry_unsound_short :
    (512 ≤ 512 ∧ 2048 + 2 ^ 32 < 2 ^ 64) ∧ ¬GeometrySound (smallVolume 1) 512 2048 := by
  refine ⟨by decide, fun sound => ?_⟩
  have agree := agree_of_geometrySound (by decide) sound smallVolume_pass
  have reaches := (agree.2 (by decide) (by
    rintro ⟨fat32, -⟩
    exact absurd fat32 (by decide))).2
  exact absurd (show _ < _ from reaches) (by decide)

end ZigOs.Fat
