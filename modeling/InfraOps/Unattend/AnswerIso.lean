import InfraOps.Support.Endian
import InfraOps.Support.Regions
import Mathlib.Data.Char
import Mathlib.Data.List.Lex

/-!
# Answer media

`build_answer_iso` of `app/services/windows_unattend.py`: an ISO 9660 image with a Joliet tree
whose root holds the given files. A call is an `.error` where the code raises; an assignment
to a slice of a `bytearray` is an `overwrite`, which lengthens the buffer at its end as Python
does.
-/

namespace InfraOps

abbrev FileName := List Char

/-- `files: Mapping[str, bytes]`. -/
structure IsoFiles where
  entries : List (FileName × Bytes)
  nodup : (entries.map Prod.fst).Nodup := by decide

/-- `_SECTOR`. -/
def sectorSize : Nat := 2048

/-! ## Fields -/

/-- An item of a `bytearray`. -/
def byte (value : Nat) : Except String UInt8 :=
  if value < 256 then .ok (UInt8.ofNat value) else .error "byte must be in range(0, 256)"

def ascii (text : List Char) : Bytes := text.map fun c => UInt8.ofNat c.toNat

/-- A file and the sector where it starts. -/
structure IsoEntry where
  name : FileName
  content : Bytes
  extent : Nat

/-- The sectors of a content; an empty one takes a sector as well. -/
def sectors (length : Nat) : Nat := max 1 ((length + (sectorSize - 1)) / sectorSize)

/-- The files one after the other, and the sector after the last one. -/
def layOut (sector : Nat) : List (FileName × Bytes) → List IsoEntry × Nat
  | [] => ([], sector)
  | (name, content) :: files =>
    let rest := layOut (sector + sectors content.length) files
    ({ name, content, extent := sector } :: rest.1, rest.2)

end InfraOps
