/-
This file decodes a FAT volume: the boot sector that gives its geometry, the
entries of the allocation table that link one cluster to the next, and the
sectors of a directory. Everything here is a pure function of the bytes of one
sector; what lies where follows from the geometry alone.
-/

import ZigOs.Error

namespace ZigOs.Fat

/-- The bytes of a device block, or of a buffer for one, by offset. -/
abbrev Sector := Nat → UInt8

inductive Kind where
  | fat12 | fat16 | fat32
  deriving DecidableEq, Repr

structure Volume where
  kind : Kind
  partitionLba : Nat
  bytesPerSector : Nat
  sectorsPerCluster : Nat
  reservedSectorCount : Nat
  fatCount : Nat
  sectorsPerFat : Nat
  rootEntryCount : Nat
  rootDirectorySectors : Nat
  rootCluster : Nat
  totalSectors : Nat
  dataSectors : Nat
  clusterCount : Nat
  firstFatLba : Nat
  firstDataLba : Nat
  rootDirectoryLba : Nat
  deriving DecidableEq, Repr

def read16 (bytes : Sector) (offset : Nat) : Nat :=
  (bytes offset).toNat + 256 * (bytes (offset + 1)).toNat

def read32 (bytes : Sector) (offset : Nat) : Nat :=
  read16 bytes offset + 65536 * read16 bytes (offset + 2)

def validBytesPerSector (value : Nat) : Bool :=
  value == 512 || value == 1024 || value == 2048 || value == 4096

def isPowerOfTwo (value : Nat) : Bool := value != 0 && value &&& (value - 1) == 0

def kindOf (clusterCount : Nat) : Kind :=
  if clusterCount < 4085 then .fat12 else if clusterCount < 65525 then .fat16 else .fat32

/-- The sectors in front of the data: reserved ones, the tables, and the root directory. The
sum is taken in 32 bits. -/
def metadataSectors (sector : Sector) (sectorsPerFat rootDirectorySectors : Nat) : Nat :=
  (read16 sector 14 + (sector 16).toNat * sectorsPerFat + rootDirectorySectors) % 2 ^ 32

/-- The geometry the fields of a boot sector describe. -/
def decodeVolume (sector : Sector) (partitionLba : Nat) : Volume :=
  let bytesPerSector := read16 sector 11
  let sectorsPerCluster := (sector 13).toNat
  let totalSectors := if read16 sector 19 ≠ 0 then read16 sector 19 else read32 sector 32
  let sectorsPerFat := if read16 sector 22 ≠ 0 then read16 sector 22 else read32 sector 36
  let rootDirectorySectors := (read16 sector 17 * 32 + bytesPerSector - 1) / bytesPerSector
  let metadata := metadataSectors sector sectorsPerFat rootDirectorySectors
  let clusterCount := (totalSectors - metadata) / sectorsPerCluster
  let rootCluster := if kindOf clusterCount = .fat32 then read32 sector 44 else 0
  { kind := kindOf clusterCount
    partitionLba
    bytesPerSector
    sectorsPerCluster
    reservedSectorCount := read16 sector 14
    fatCount := (sector 16).toNat
    sectorsPerFat
    rootEntryCount := read16 sector 17
    rootDirectorySectors
    rootCluster
    totalSectors
    dataSectors := totalSectors - metadata
    clusterCount
    firstFatLba := partitionLba + read16 sector 14
    firstDataLba := partitionLba + metadata
    rootDirectoryLba :=
      if kindOf clusterCount = .fat32 then
        partitionLba + metadata + (rootCluster - 2) * sectorsPerCluster
      else partitionLba + read16 sector 14 + (sector 16).toNat * sectorsPerFat }

def parseBootSector (sector : Sector) (length partitionLba : Nat) : Option Volume :=
  let volume := decodeVolume sector partitionLba
  if length < 512 ∨ read16 sector 510 ≠ 0xAA55 then none
  else if validBytesPerSector volume.bytesPerSector = false then none
  else if isPowerOfTwo volume.sectorsPerCluster = false then none
  else if volume.reservedSectorCount = 0 ∨ volume.fatCount = 0 then none
  else if volume.totalSectors = 0 ∨ volume.sectorsPerFat = 0 then none
  else if volume.totalSectors ≤
      metadataSectors sector volume.sectorsPerFat volume.rootDirectorySectors then none
  else if volume.kind = .fat32 ∧ volume.rootEntryCount ≠ 0 then none
  else if volume.kind = .fat32 ∧ volume.rootCluster < 2 then none
  else some volume

/-! ### Directories -/

/-- A directory entry; the name is what stands in front of the terminator. -/
structure DirectoryEntry where
  name : Bytes
  attributes : UInt8
  firstCluster : Nat
  fileSize : Nat
  deriving DecidableEq, Repr

def DirectoryEntry.isDirectory (entry : DirectoryEntry) : Bool := entry.attributes &&& 0x10 != 0

abbrev maximumDirectoryEntriesPerSector : Nat := 128

/-- The entries of a sector, and whether the directory ends in it. -/
structure DirectorySector where
  entries : List DirectoryEntry
  endOfDirectory : Bool
  deriving DecidableEq, Repr

/-- A run of bytes without the spaces that pad it. -/
def trimmed (raw : Sector) (offset length : Nat) : Bytes :=
  (((List.range' offset length).map raw).reverse.dropWhile (· == 32)).reverse

/-- A leading 5 stands for the byte that marks deleted entries. -/
def unescaped : Bytes → Bytes
  | [] => []
  | first :: rest => (if first = 5 then 0xE5 else first) :: rest

def decodeShortName (raw : Sector) (offset : Nat) : Bytes :=
  let extension := trimmed raw (offset + 8) 3
  unescaped (trimmed raw offset 8) ++ if extension = [] then [] else 46 :: extension

def terminatedSlice (buffer : Bytes) : Bytes := buffer.takeWhile (· != 0)

def decodeEntry (sector : Sector) (offset : Nat) : DirectoryEntry where
  name := terminatedSlice (decodeShortName sector offset)
  attributes := sector (offset + 11)
  firstCluster := read16 sector (offset + 20) * 65536 + read16 sector (offset + 26)
  fileSize := read32 sector (offset + 28)

/-- Deleted entries, parts of long names and volume labels are passed over. -/
def skipsEntry (sector : Sector) (offset : Nat) : Bool :=
  sector offset == 0xE5 || sector (offset + 11) == 0x0F || sector (offset + 11) &&& 0x08 != 0

/-- A sector never holds more entries than the result has room for, so the source's check for
that never fails. -/
def parseEntries (sector : Sector) : Nat → Nat → DirectorySector
  | 0, _ => { entries := [], endOfDirectory := false }
  | remaining + 1, index =>
    if sector (index * 32) = 0 then { entries := [], endOfDirectory := true }
    else
      let rest := parseEntries sector remaining (index + 1)
      if skipsEntry sector (index * 32) then rest
      else { rest with entries := decodeEntry sector (index * 32) :: rest.entries }

def parseDirectorySector (sector : Sector) (length : Nat) : Option DirectorySector :=
  if length < 32 ∨ length % 32 ≠ 0 then none
  else if maximumDirectoryEntriesPerSector < length / 32 then none
  else some (parseEntries sector (length / 32) 0)

/-! ### The allocation table -/

structure FatEntryLocation where
  lba : Nat
  byteOffset : Nat
  byteCount : Nat
  deriving DecidableEq, Repr

inductive ClusterLink where
  | next (cluster : Nat)
  | finish
  | free
  | bad
  deriving DecidableEq, Repr

/-- Where the entry of a cluster starts, counted from the start of the table. -/
def fatOffset : Kind → Nat → Nat
  | .fat12, cluster => cluster + cluster / 2
  | .fat16, cluster => cluster * 2
  | .fat32, cluster => cluster * 4

def entryBytes : Kind → Nat
  | .fat12 | .fat16 => 2
  | .fat32 => 4

def fatEntryLocation (volume : Volume) (cluster : Nat) : Option FatEntryLocation :=
  let offset := fatOffset volume.kind cluster
  if cluster < 2 ∨ volume.clusterCount + 2 ≤ cluster then none
  else if volume.bytesPerSector <
      offset % volume.bytesPerSector + entryBytes volume.kind then none
  else some
    { lba := volume.firstFatLba + offset / volume.bytesPerSector
      byteOffset := offset % volume.bytesPerSector
      byteCount := entryBytes volume.kind }

def entryValue (kind : Kind) (cluster : Nat) (fatSector : Sector) (offset : Nat) : Nat :=
  match kind with
  | .fat12 =>
    if cluster % 2 = 0 then read16 fatSector offset % 0x1000 else read16 fatSector offset / 16
  | .fat16 => read16 fatSector offset
  | .fat32 => read32 fatSector offset % 0x10000000

def badMarker : Kind → Nat
  | .fat12 => 0x0FF7
  | .fat16 => 0xFFF7
  | .fat32 => 0x0FFFFFF7

def endMarker : Kind → Nat
  | .fat12 => 0x0FF8
  | .fat16 => 0xFFF8
  | .fat32 => 0x0FFFFFF8

/-- What the value of a table entry says. -/
def linkOf (volume : Volume) (value : Nat) : Option ClusterLink :=
  if value = 0 then some .free
  else if value = badMarker volume.kind then some .bad
  else if endMarker volume.kind ≤ value then some .finish
  else if value < 2 ∨ volume.clusterCount + 2 ≤ value then none
  else some (.next value)

def decodeClusterLink (volume : Volume) (cluster : Nat) (fatSector : Sector) (length : Nat) :
    Option ClusterLink :=
  match fatEntryLocation volume cluster with
  | none => none
  | some location =>
    if length < location.byteOffset + location.byteCount then none
    else linkOf volume (entryValue volume.kind cluster fatSector location.byteOffset)

def clusterFirstLba (volume : Volume) (cluster : Nat) : Option Nat :=
  if cluster < 2 ∨ volume.clusterCount + 2 ≤ cluster then none
  else some (volume.firstDataLba + (cluster - 2) * volume.sectorsPerCluster)

end ZigOs.Fat
