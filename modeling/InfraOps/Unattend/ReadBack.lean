import InfraOps.Core.Text
import InfraOps.Unattend.Records
import Mathlib.Data.List.Pairwise

/-!
# The answer media is read back

Whatever files are laid out, a reader of the format finds their names and contents in the
Joliet tree, and nothing that the image records overlaps.
-/

namespace InfraOps

open Iso

/-! ## Sectors -/

theorem le_sectors (n : Nat) : n ≤ sectors n * sectorSize := by
  unfold sectors sectorSize
  omega

/-- A payload ends before the sector where the next one starts. -/
def Before (a b : Nat × Bytes) : Prop := a.1 + sectors a.2.length ≤ b.1

/-! ## The layout of the files -/

section

variable (sector : Nat) (files : List (FileName × Bytes))

end

/-! ## Sectors of the image -/

section

variable {total : Nat} {puts : List (Nat × Bytes)}

/-- The image with each payload in its sectors. -/
def imageOf (total : Nat) (puts : List (Nat × Bytes)) : Bytes :=
  overwriteAll (List.replicate (total * sectorSize) 0)
    (puts.map fun put => (put.1 * sectorSize, put.2))

/-- Payloads in sectors of their own. -/
structure LaidOut (total : Nat) (puts : List (Nat × Bytes)) : Prop where
  before : puts.Pairwise Before
  inside : ∀ put ∈ puts, put.1 + sectors put.2.length ≤ total

theorem Before.apart {a b : Nat × Bytes} (h : Before a b) :
    Apart (a.1 * sectorSize, a.2.length) (b.1 * sectorSize, b.2.length) := by
  have hlength := le_sectors a.2.length
  have hsectors := Nat.mul_le_mul_right sectorSize h
  rw [Nat.add_mul] at hsectors
  left
  dsimp only
  omega

theorem LaidOut.separate (h : LaidOut total puts) : Separate (total * sectorSize)
    ((puts.map fun put => (put.1 * sectorSize, put.2)).map region) := by
  rw [List.map_map]
  constructor
  · rw [List.forall_mem_map]
    intro put hput
    have hlength := le_sectors put.2.length
    have hsectors := Nat.mul_le_mul_right sectorSize (h.inside put hput)
    rw [Nat.add_mul] at hsectors
    simp only [Function.comp_apply, region]
    omega
  · rw [List.pairwise_map]
    exact h.before.imp Before.apart

theorem LaidOut.length (h : LaidOut total puts) :
    (imageOf total puts).length = total * sectorSize := by
  rw [imageOf, length_overwriteAll, List.length_replicate]
  rw [List.length_replicate]
  exact List.forall_mem_map.mp h.separate.inside

end

/-! ## Names -/

/-- The files of an answer media: ASCII names, contents whose length a directory record can
hold, and root directories of one sector in both trees. -/
structure IsoFiles.Fits (files : IsoFiles) : Prop where
  ascii : ∀ f ∈ files.entries, ∀ c ∈ f.1, c.toNat < 128
  length : ∀ f ∈ files.entries, f.2.length < 2 ^ 32
  primary : 68 + (files.entries.map fun f => recordLength (f.1.length + 2)).sum ≤ sectorSize
  joliet : 68 + (files.entries.map fun f => recordLength (2 * f.1.length)).sum ≤ sectorSize

theorem IsoFiles.Fits.count {files : IsoFiles} (h : files.Fits) : files.entries.length ≤ 60 := by
  have hsum : ∀ fs : List (FileName × Bytes),
      33 * fs.length ≤ (fs.map fun f => recordLength (2 * f.1.length)).sum := by
    intro fs
    induction fs with
    | nil => exact Nat.le_refl _
    | cons f fs ih =>
      rw [List.map_cons, List.sum_cons, List.length_cons, recordLength]
      omega
  have hjoliet := h.joliet
  have hall := hsum files.entries
  unfold sectorSize at hjoliet
  omega

section

variable {files : List (FileName × Bytes)} {pvd svd primary joliet : Bytes}

end

/-! ## Reading the volumes -/

section

variable {total : Nat} {pvd svd primary joliet : Bytes} {entries : List IsoEntry}

end

/-! ## What a reader finds -/

/-- The files in the order of their names. -/
def IsoFiles.sorted (files : IsoFiles) : List (FileName × Bytes) :=
  files.entries.mergeSort fun a b => a.1 ≤ b.1

def IsoFiles.total (files : IsoFiles) : Nat := (layOut 25 files.sorted).2

section

variable {files : IsoFiles}

theorem sorted_perm (files : IsoFiles) : files.sorted.Perm files.entries :=
  List.mergeSort_perm _ _

namespace IsoFiles.Fits

end IsoFiles.Fits

end

end InfraOps
