import InfraOps.Guest.DataVolumes
import InfraOps.Support.Keyed
import InfraOps.Support.Update

/-!
# The disks of the guest

What Windows knows of its disks, and the script of `build_initialize_data_disks_script` as the
commands that it takes one after another. A script acts on what it has read, however long ago.
-/

namespace InfraOps.Guest

structure GuestVolume where
  /-- Empty before the volume is formatted. -/
  fileSystem : String
  label : String
  files : List String

structure GuestPartition where
  /-- `Type -eq 'Basic'`. -/
  basic : Bool
  driveLetter : String
  volume : GuestVolume

structure GuestDisk where
  number : Nat
  bytes : Nat
  /-- `IsBoot -or IsSystem`. -/
  system : Bool
  offline : Bool
  readOnly : Bool
  /-- `PartitionStyle -eq 'RAW'`. -/
  raw : Bool
  partitions : List GuestPartition

/-- A partition, as the number of its disk and its place there. -/
structure Place where
  disk : Nat
  index : Nat
  deriving DecidableEq

variable {disks disks' : List GuestDisk} {n m : Nat} {f : GuestDisk → GuestDisk} {place : Place}

/-! ## Looking at disks and partitions -/

/-- `Get-Disk -Number`. -/
def diskAt (disks : List GuestDisk) (n : Nat) : Option GuestDisk :=
  disks.find? fun d => d.number == n

def partitionAt (disks : List GuestDisk) (place : Place) : Option GuestPartition :=
  (diskAt disks place.disk).bind fun d => d.partitions[place.index]?

def updateDisk (n : Nat) (f : GuestDisk → GuestDisk) (disks : List GuestDisk) : List GuestDisk :=
  updateWhere (fun d => d.number == n) f disks

def GuestDisk.modify (index : Nat) (g : GuestPartition → GuestPartition) (disk : GuestDisk) :
    GuestDisk :=
  { disk with partitions := disk.partitions.modify index g }

def updatePartition (place : Place) (g : GuestPartition → GuestPartition)
    (disks : List GuestDisk) : List GuestDisk :=
  updateDisk place.disk (GuestDisk.modify place.index g) disks

/-- `Format-Volume`. -/
def format (place : Place) (volume : GuestVolume) (disks : List GuestDisk) : List GuestDisk :=
  updatePartition place (fun q => { q with volume }) disks

def storeFile (place : Place) (file : String) (disks : List GuestDisk) : List GuestDisk :=
  updatePartition place
    (fun q => { q with volume := { q.volume with files := q.volume.files ++ [file] } }) disks

theorem number_of_diskAt {d : GuestDisk} (h : diskAt disks n = some d) : d.number = n := by
  simpa using List.find?_some h

theorem diskAt_cons (d : GuestDisk) (disks : List GuestDisk) (n : Nat) :
    diskAt (d :: disks) n = if d.number = n then some d else diskAt disks n := by
  by_cases hd : d.number = n
  · simp [diskAt, hd]
  · simp [diskAt, hd]

theorem diskAt_updateDisk (hf : ∀ d, (f d).number = d.number) (disks : List GuestDisk)
    (n m : Nat) :
    diskAt (updateDisk n f disks) m =
      if m = n then (diskAt disks m).map f else diskAt disks m := by
  induction disks with
  | nil => simp [diskAt, updateDisk, updateWhere]
  | cons d disks ih =>
    have hcons : updateDisk n f (d :: disks) =
        (if d.number = n then f d else d) :: updateDisk n f disks := by
      simp [updateDisk, updateWhere]
    have hnumber : (if d.number = n then f d else d).number = d.number := by
      split
      · exact hf d
      · rfl
    rw [hcons, diskAt_cons, diskAt_cons, hnumber, ih]
    by_cases hd : d.number = m
    · subst hd
      by_cases hn : d.number = n
      · simp [hn]
      · simp [hn]
    · simp [hd]

theorem diskAt_append_of_some {d disk : GuestDisk} (h : diskAt disks n = some d) :
    diskAt (disks ++ [disk]) n = some d := by
  rw [diskAt, List.find?_append, ← diskAt, h, Option.some_or]

theorem diskAt_of_mem (hnodup : (disks.map GuestDisk.number).Nodup) {d : GuestDisk}
    (hd : d ∈ disks) : diskAt disks d.number = some d :=
  find?_key GuestDisk.number hnodup hd

theorem numbers_updateDisk (hf : ∀ d, (f d).number = d.number) (n : Nat)
    (disks : List GuestDisk) :
    (updateDisk n f disks).map GuestDisk.number = disks.map GuestDisk.number :=
  map_updateWhere hf disks

theorem numbers_updatePartition (place : Place) (g : GuestPartition → GuestPartition)
    (disks : List GuestDisk) :
    (updatePartition place g disks).map GuestDisk.number = disks.map GuestDisk.number :=
  numbers_updateDisk (f := GuestDisk.modify place.index g) (fun _ => rfl) place.disk disks

theorem partitionAt_updatePartition (place other : Place) (g : GuestPartition → GuestPartition)
    (disks : List GuestDisk) :
    partitionAt (updatePartition place g disks) other =
      if other = place then (partitionAt disks other).map g else partitionAt disks other := by
  rw [partitionAt, partitionAt, updatePartition,
    diskAt_updateDisk (f := GuestDisk.modify place.index g) fun _ => rfl]
  obtain ⟨disk, index⟩ := place
  obtain ⟨disk', index'⟩ := other
  simp only [Place.mk.injEq]
  by_cases hdisk : disk' = disk
  · subst hdisk
    by_cases hindex : index' = index
    · subst hindex
      cases diskAt disks disk' with
      | none => simp
      | some d => simp [GuestDisk.modify]
    · cases diskAt disks disk' with
      | none => simp
      | some d => simp [GuestDisk.modify, hindex, Ne.symm hindex]
  · simp [hdisk]

/-! ## What stays -/

/-- Disks stay what they are. -/
def SameDisks (disks disks' : List GuestDisk) : Prop :=
  ∀ n d, diskAt disks n = some d →
    ∃ d', diskAt disks' n = some d' ∧ d'.system = d.system ∧ d'.bytes = d.bytes

/-- Partitions stay, with their file systems, and no file is lost. -/
def KeepsFiles (disks disks' : List GuestDisk) : Prop :=
  ∀ place q, partitionAt disks place = some q →
    ∃ q', partitionAt disks' place = some q' ∧ q'.basic = q.basic ∧
      q'.volume.fileSystem = q.volume.fileSystem ∧ q.volume.files ⊆ q'.volume.files

/-- Partitions stay, and so does that they have a file system. -/
def KeepsFormatted (disks disks' : List GuestDisk) : Prop :=
  ∀ place q, partitionAt disks place = some q →
    ∃ q', partitionAt disks' place = some q' ∧ q'.basic = q.basic ∧
      (q.volume.fileSystem ≠ "" → q'.volume.fileSystem ≠ "")

theorem SameDisks.refl (disks : List GuestDisk) : SameDisks disks disks :=
  fun _ d hd => ⟨d, hd, rfl, rfl⟩

theorem KeepsFiles.refl (disks : List GuestDisk) : KeepsFiles disks disks :=
  fun _ q hq => ⟨q, hq, rfl, rfl, List.Subset.refl _⟩

theorem KeepsFiles.keepsFormatted (h : KeepsFiles disks disks') :
    KeepsFormatted disks disks' := by
  intro place q hq
  obtain ⟨q', hq', hbasic, hsystem, -⟩ := h place q hq
  exact ⟨q', hq', hbasic, fun hformatted => hsystem ▸ hformatted⟩

/-- What commands do to a disk that format nothing. -/
structure Spares (f : GuestDisk → GuestDisk) : Prop where
  number : ∀ d, (f d).number = d.number
  system : ∀ d, (f d).system = d.system
  bytes : ∀ d, (f d).bytes = d.bytes
  partitions : ∀ d, d.partitions <+: (f d).partitions

theorem Spares.sameDisks (hf : Spares f) (n : Nat) (disks : List GuestDisk) :
    SameDisks disks (updateDisk n f disks) := by
  intro m d hd
  rw [diskAt_updateDisk hf.number, hd]
  split
  · exact ⟨f d, rfl, hf.system d, hf.bytes d⟩
  · exact ⟨d, rfl, rfl, rfl⟩

theorem Spares.keepsFiles (hf : Spares f) (n : Nat) (disks : List GuestDisk) :
    KeepsFiles disks (updateDisk n f disks) := by
  intro place q hq
  refine ⟨q, ?_, rfl, rfl, List.Subset.refl _⟩
  obtain ⟨d, hd, hq⟩ := Option.bind_eq_some_iff.mp hq
  rw [partitionAt, diskAt_updateDisk hf.number, hd]
  split
  · obtain ⟨rest, hrest⟩ := hf.partitions d
    show (f d).partitions[place.index]? = some q
    rw [← hrest, List.getElem?_append_left (List.getElem?_eq_some_iff.mp hq).1]
    exact hq
  · exact hq

theorem sameDisks_append (disk : GuestDisk) : SameDisks disks (disks ++ [disk]) :=
  fun _ d hd => ⟨d, diskAt_append_of_some hd, rfl, rfl⟩

theorem keepsFiles_append (disk : GuestDisk) : KeepsFiles disks (disks ++ [disk]) := by
  intro place q hq
  refine ⟨q, ?_, rfl, rfl, List.Subset.refl _⟩
  obtain ⟨d, hd, hq⟩ := Option.bind_eq_some_iff.mp hq
  rw [partitionAt, diskAt_append_of_some hd]
  exact hq

theorem sameDisks_updatePartition (place : Place) (g : GuestPartition → GuestPartition)
    (disks : List GuestDisk) : SameDisks disks (updatePartition place g disks) := by
  intro n d hd
  rw [updatePartition, diskAt_updateDisk (f := GuestDisk.modify place.index g) fun _ => rfl, hd]
  split
  · exact ⟨_, rfl, rfl, rfl⟩
  · exact ⟨d, rfl, rfl, rfl⟩

theorem sameDisks_format (place : Place) (volume : GuestVolume) (disks : List GuestDisk) :
    SameDisks disks (format place volume disks) :=
  sameDisks_updatePartition place _ disks

theorem keepsFiles_storeFile (place : Place) (file : String) (disks : List GuestDisk) :
    KeepsFiles disks (storeFile place file disks) := by
  intro other q hq
  rw [storeFile, partitionAt_updatePartition, hq]
  split
  · exact ⟨_, rfl, rfl, rfl, List.subset_append_left _ _⟩
  · exact ⟨q, rfl, rfl, rfl, List.Subset.refl _⟩

theorem keepsFormatted_format {volume : GuestVolume} (h : volume.fileSystem ≠ "") (place : Place)
    (disks : List GuestDisk) : KeepsFormatted disks (format place volume disks) := by
  intro other q hq
  rw [format, partitionAt_updatePartition, hq]
  split
  · exact ⟨_, rfl, rfl, fun _ => h⟩
  · exact ⟨q, rfl, rfl, id⟩

/-! ## The commands of the script -/

/-- Bytes in `1GB`. -/
def gigabyte : Nat := 1073741824

/-- `[int][math]::Round($disk.Size / 1GB)`, which rounds halves to the even number. -/
def sizeGb (bytes : Nat) : Nat :=
  let quotient := bytes / gigabyte
  let rest := bytes % gigabyte
  if 2 * rest < gigabyte then quotient
  else if gigabyte < 2 * rest then quotient + 1
  else if quotient % 2 = 0 then quotient else quotient + 1

/-- `$data`. -/
def dataDisks (disks : List GuestDisk) : List GuestDisk :=
  (disks.filter fun d => !d.system).insertionSort fun d e => d.number ≤ e.number

/-- The command that a script is at, with what it has read of the partition and the volume.
`since` is how many volumes had been formatted when it read the volume. -/
inductive DiskCommand
  | list
  | notVisible
  | setOnline
  | setWritable
  | initializeDisk
  | getPartition
  | newPartition
  | getVolume (index : Nat) (letter : String)
  | formatVolume (index : Nat) (letter : String) (volume : GuestVolume) (since : Nat)

structure DiskScript where
  /-- `$data` from `$disk` on. -/
  data : List GuestDisk := []
  command : DiskCommand := .list
  volumes : List DataVolume := []

/-- A volume that was formatted: by which script, which had read it when `since` volumes had
been formatted, or by a person. -/
structure Formatting where
  place : Place
  script : Option Nat
  since : Nat

/-- The partition that Windows reserves on a disk that it initializes. -/
def reservedPartition : GuestPartition where
  basic := false
  driveLetter := ""
  volume := { fileSystem := "", label := "", files := [] }

def newPartition (letter : String) : GuestPartition where
  basic := true
  driveLetter := letter
  volume := { fileSystem := "", label := "", files := [] }

def GuestDisk.setOnline (disk : GuestDisk) : GuestDisk := { disk with offline := false }

def GuestDisk.setWritable (disk : GuestDisk) : GuestDisk := { disk with readOnly := false }

/-- `Initialize-Disk`, which refuses a disk that is not raw. -/
def GuestDisk.initializeDisk (disk : GuestDisk) : GuestDisk :=
  { disk with raw := false, partitions := disk.partitions ++ [reservedPartition] }

def GuestDisk.addPartition (letter : String) (disk : GuestDisk) : GuestDisk :=
  { disk with partitions := disk.partitions ++ [newPartition letter] }

/-- `('Data' + $index)`. -/
def newLabel (script : DiskScript) : String := "Data" ++ toString (script.volumes.length + 1)

/-- The object that the loop puts out, and the next disk. -/
def DiskScript.report (script : DiskScript) (disk : GuestDisk) (rest : List GuestDisk)
    (letter : String) (volume : GuestVolume) : DiskScript where
  data := rest
  command := .setOnline
  volumes := script.volumes ++
    [{ number := disk.number, sizeGb := sizeGb disk.bytes, driveLetter := letter,
       label := volume.label, fileSystem := volume.fileSystem }]

/-- One command of the `i`-th script; `letter` is the letter that a new partition gets. -/
def DiskScript.next (expected i : Nat) (letter : String) (disks : List GuestDisk)
    (formats : List Formatting) (script : DiskScript) :
    Option (List GuestDisk × List Formatting × DiskScript) :=
  match script.command, script.data with
  | .list, _ =>
    let data := dataDisks disks
    if data.length < expected then some (disks, formats, { script with command := .notVisible })
    else some (disks, formats, { script with data, command := .setOnline })
  | .setOnline, disk :: _ =>
    some (if disk.offline then updateDisk disk.number GuestDisk.setOnline disks else disks,
      formats, { script with command := .setWritable })
  | .setWritable, disk :: _ =>
    some (if disk.readOnly then updateDisk disk.number GuestDisk.setWritable disks else disks,
      formats, { script with command := .initializeDisk })
  | .initializeDisk, disk :: rest =>
    -- `$disk = Get-Disk -Number $disk.Number`
    (diskAt disks disk.number).map fun disk =>
      (if disk.raw then updateDisk disk.number GuestDisk.initializeDisk disks else disks,
        formats, { script with data := disk :: rest, command := .getPartition })
  | .getPartition, disk :: _ =>
    (diskAt disks disk.number).map fun current =>
      match current.partitions.findIdx? GuestPartition.basic with
      | none => (disks, formats, { script with command := .newPartition })
      | some index =>
        let letter := ((current.partitions[index]?).map GuestPartition.driveLetter).getD ""
        (disks, formats, { script with command := .getVolume index letter })
  | .newPartition, disk :: _ =>
    (diskAt disks disk.number).map fun current =>
      (updateDisk disk.number (GuestDisk.addPartition letter) disks, formats,
        { script with command := .getVolume current.partitions.length letter })
  | .getVolume index letter, disk :: _ =>
    (partitionAt disks ⟨disk.number, index⟩).map fun partition =>
      (disks, formats,
        { script with command := .formatVolume index letter partition.volume formats.length })
  | .formatVolume index letter volume since, disk :: rest =>
    if volume.fileSystem = "" then
      let place : Place := ⟨disk.number, index⟩
      let volume : GuestVolume := { fileSystem := "NTFS", label := newLabel script, files := [] }
      some (format place volume disks, formats ++ [{ place, script := some i, since }],
        script.report disk rest letter volume)
    else some (disks, formats, script.report disk rest letter volume)
  | _, _ => none

theorem spares_setOnline : Spares GuestDisk.setOnline :=
  ⟨fun _ => rfl, fun _ => rfl, fun _ => rfl, fun _ => List.prefix_rfl⟩

theorem spares_setWritable : Spares GuestDisk.setWritable :=
  ⟨fun _ => rfl, fun _ => rfl, fun _ => rfl, fun _ => List.prefix_rfl⟩

theorem spares_initializeDisk : Spares GuestDisk.initializeDisk :=
  ⟨fun _ => rfl, fun _ => rfl, fun _ => rfl, fun _ => List.prefix_append _ _⟩

theorem spares_addPartition (letter : String) : Spares (GuestDisk.addPartition letter) :=
  ⟨fun _ => rfl, fun _ => rfl, fun _ => rfl, fun _ => List.prefix_append _ _⟩

end InfraOps.Guest
