import InfraOps.Support.Endian
import InfraOps.Support.Regions

/-!
# A reader of ISO 9660 and Joliet images

What the image is for: a reader that knows the format only. It scans the volume descriptors
from sector 16 to the terminator, takes the primary and the Joliet one, and follows each root
record to the records of the root directory and these to their extents. It reads a field that
stands in both byte orders only if the two agree.
-/

namespace InfraOps.Iso

/-- A number in `width` bytes little endian and the same again big endian. -/
def bothEndian (width : Nat) (bs : Bytes) (start : Nat) : Option Nat :=
  let little := slice bs start width
  let big := slice bs (start + width) width
  if big.length = width ∧ littleValue little = bigValue big then some (littleValue little)
  else none

/-- A directory record. -/
structure Record where
  extent : Nat
  length : Nat
  directory : Bool
  identifier : Bytes
  deriving DecidableEq

def readRecord (bs : Bytes) : Option Record := do
  let extent ← bothEndian 4 bs 2
  let length ← bothEndian 4 bs 10
  let flags : UInt8 ← bs[25]?
  let _ ← bothEndian 2 bs 28
  let size : UInt8 ← bs[32]?
  let identifier := slice bs 33 size.toNat
  guard (identifier.length = size.toNat)
  return { extent, length, directory := flags &&& 0x02 ≠ 0, identifier }

/-- The records of a sector: each begins with its length, and a zero ends them. -/
def readRecords : (fuel : Nat) → Bytes → Option (List Record)
  | 0, _ => none
  | _ + 1, [] => some []
  | fuel + 1, size :: rest =>
    if size = 0 then some []
    else do
      let record ← readRecord ((size :: rest).take size.toNat)
      let records ← readRecords fuel ((size :: rest).drop size.toNat)
      return record :: records

/-- A volume, as its descriptor and its root directory give it. -/
structure Volume where
  totalSectors : Nat
  pathTableSize : Nat
  lTable : Nat
  mTable : Nat
  root : Record
  records : List Record

/-- The sectors have 2048 bytes, and a root directory is read from one of them. -/
def readVolume (image descriptor : Bytes) : Option Volume := do
  let totalSectors ← bothEndian 4 descriptor 80
  let _ ← bothEndian 2 descriptor 120
  let _ ← bothEndian 2 descriptor 124
  let sectorSize ← bothEndian 2 descriptor 128
  guard (sectorSize = 2048)
  let pathTableSize ← bothEndian 4 descriptor 132
  let lTable := littleValue (slice descriptor 140 4)
  let mTable := bigValue (slice descriptor 148 4)
  let root ← readRecord (slice descriptor 156 34)
  guard (root.directory ∧ root.length = 2048)
  -- both path tables lead to the root
  guard (littleValue (slice image (lTable * 2048 + 2) 4) = root.extent)
  guard (bigValue (slice image (mTable * 2048 + 2) 4) = root.extent)
  let records ← readRecords 2048 (slice image (root.extent * 2048) root.length)
  return { totalSectors, pathTableSize, lTable, mTable, root, records }

def Volume.files (v : Volume) : List Record := v.records.filter fun r => !r.directory

def contentOf (image : Bytes) (r : Record) : Bytes := slice image (r.extent * 2048) r.length

/-- An image, as it is read. -/
structure Disc where
  descriptors : Nat
  primary : Volume
  joliet : Volume

/-- UCS-2, the more significant byte first. -/
def decodeUcs2 : Bytes → List Char
  | high :: low :: rest => Char.ofNat (256 * high.toNat + low.toNat) :: decodeUcs2 rest
  | _ => []

/-- The names and contents of the Joliet tree. -/
def Disc.files (disc : Disc) (image : Bytes) : List (List Char × Bytes) :=
  disc.joliet.files.map fun r => (decodeUcs2 r.identifier, contentOf image r)

/-- The path tables and the root directory of a volume. -/
def Volume.regions (v : Volume) : List Region :=
  [(v.lTable * 2048, v.pathTableSize), (v.mTable * 2048, v.pathTableSize),
    (v.root.extent * 2048, v.root.length)]

/-- Everything that the image records: descriptors, tables, directories and file extents. -/
def Disc.regions (disc : Disc) : List Region :=
  (List.range disc.descriptors).map (fun i => ((16 + i) * 2048, 2048)) ++
    disc.primary.regions ++ disc.joliet.regions ++
    disc.joliet.files.map fun r => (r.extent * 2048, r.length)

end InfraOps.Iso
