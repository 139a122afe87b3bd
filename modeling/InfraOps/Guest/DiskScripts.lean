import InfraOps.Guest.Disks

/-!
# Scripts on the disks

What a script that initializes the data disks has done and read, and what stays of it while
other scripts and people change the disks.
-/

namespace InfraOps.Guest

/-! ## What a command does -/

/-- The volume of the `k`-th formatting was formatted by others since its script had read it. -/
def Overtaken (formats : List Formatting) (k : Nat) (f : Formatting) : Prop :=
  ∃ j g, formats[j]? = some g ∧ f.since ≤ j ∧ j < k ∧ g.place = f.place ∧ g.script ≠ f.script

/-- A volume as the stage reports it is on a data disk of that number and size, in a basic
partition that has a file system. -/
def Reported (disks : List GuestDisk) (volume : DataVolume) : Prop :=
  ∃ (n index : Nat) (d : GuestDisk) (q : GuestPartition), volume.number = n ∧
    diskAt disks n = some d ∧ d.system = false ∧ volume.sizeGb = sizeGb d.bytes ∧
      partitionAt disks ⟨n, index⟩ = some q ∧ q.basic = true ∧ q.volume.fileSystem ≠ ""

variable {expected : Nat} {disks disks' : List GuestDisk} {formats formats' : List Formatting}
  {script script' : DiskScript} {i : Nat} {letter : String}

/-- What a script has listed and put out so far. -/
structure ScriptFacts (disks : List GuestDisk) (script : DiskScript) : Prop where
  start : script.command = .list → script.volumes = []
  data : ∀ d ∈ script.data, ∃ d', diskAt disks d.number = some d' ∧ d'.system = false ∧
    d'.bytes = d.bytes
  volumes : ∀ volume ∈ script.volumes, Reported disks volume
  distinct : (script.volumes.map DataVolume.number ++
    script.data.map fun d => (d.number : Int)).Nodup

/-- What a script has read about the partition of its disk. -/
def CommandInv (disks : List GuestDisk) (formats : List Formatting) (i n : Nat) :
    DiskCommand → Prop
  | .getVolume index _ => ∃ q, partitionAt disks ⟨n, index⟩ = some q ∧ q.basic = true
  | .formatVolume index _ volume since =>
    since ≤ formats.length ∧
      ∃ q, partitionAt disks ⟨n, index⟩ = some q ∧ q.basic = true ∧
        (volume.fileSystem ≠ "" → q.volume.fileSystem ≠ "") ∧
        (volume.fileSystem = "" → q.volume.fileSystem ≠ "" →
          Overtaken formats formats.length ⟨⟨n, index⟩, some i, since⟩)
  | _ => True

/-- What one command of the `i`-th script does to the disks. -/
inductive Effect (disks : List GuestDisk) (formats : List Formatting) (i : Nat) :
    List GuestDisk → List Formatting → Prop
  | looks : Effect disks formats i disks formats
  | spares (n : Nat) {f : GuestDisk → GuestDisk} (hf : Spares f) :
      Effect disks formats i (updateDisk n f disks) formats
  | formats (f : Formatting) {volume : GuestVolume} (hsystem : volume.fileSystem ≠ "")
      (hscript : f.script = some i)
      (hdisk : ∃ d, diskAt disks f.place.disk = some d ∧ d.system = false)
      (hread : ∀ q, partitionAt disks f.place = some q → q.volume.fileSystem ≠ "" →
        Overtaken formats formats.length f) :
      Effect disks formats i (format f.place volume disks) (formats ++ [f])

theorem Effect.sameDisks (h : Effect disks formats i disks' formats') :
    SameDisks disks disks' := by
  cases h with
  | looks => exact fun n d hd => ⟨d, hd, rfl, rfl⟩
  | spares n hf => exact hf.sameDisks n disks
  | formats f => exact sameDisks_format f.place _ disks

theorem Effect.keepsFormatted (h : Effect disks formats i disks' formats') :
    KeepsFormatted disks disks' := by
  cases h with
  | looks => exact fun place q hq => ⟨q, hq, rfl, id⟩
  | spares n hf => exact (hf.keepsFiles n disks).keepsFormatted
  | formats f hsystem => exact keepsFormatted_format hsystem f.place disks

theorem Effect.numbers (h : Effect disks formats i disks' formats') :
    disks'.map GuestDisk.number = disks.map GuestDisk.number := by
  cases h with
  | looks => rfl
  | spares n hf => exact numbers_updateDisk hf.number n disks
  | formats f => exact numbers_updatePartition f.place _ disks

/-- The loop body reads its disk from `$data`, and every disk there is a data disk. -/
theorem ScriptFacts.effect (h : ScriptFacts disks script)
    (hcommand : ∀ disk rest, script.data = disk :: rest →
      CommandInv disks formats i disk.number script.command)
    (hnext : script.next expected i letter disks formats = some (disks', formats', script')) :
    Effect disks formats i disks' formats' := by
  unfold DiskScript.next at hnext
  split at hnext
  · dsimp only at hnext
    split at hnext
    · cases hnext
      exact .looks
    · cases hnext
      exact .looks
  · cases hnext
    split
    · exact .spares _ spares_setOnline
    · exact .looks
  · cases hnext
    split
    · exact .spares _ spares_setWritable
    · exact .looks
  · obtain ⟨current, -, hnext⟩ := Option.map_eq_some_iff.mp hnext
    cases hnext
    split
    · exact .spares _ spares_initializeDisk
    · exact .looks
  · obtain ⟨current, -, hnext⟩ := Option.map_eq_some_iff.mp hnext
    split at hnext
    · cases hnext
      exact .looks
    · cases hnext
      exact .looks
  · obtain ⟨current, -, hnext⟩ := Option.map_eq_some_iff.mp hnext
    cases hnext
    exact .spares _ (spares_addPartition letter)
  · obtain ⟨partition, -, hnext⟩ := Option.map_eq_some_iff.mp hnext
    cases hnext
    exact .looks
  · rename_i index letter volume since disk rest hformat hdata
    have ntfs : "NTFS" ≠ "" := by decide
    split at hnext
    · rename_i hempty
      cases hnext
      obtain ⟨d, hd, hsystem, -⟩ := h.data disk (hdata ▸ List.mem_cons_self)
      have hinv := hcommand disk rest hdata
      rw [hformat] at hinv
      obtain ⟨-, q, hq, -, -, hread⟩ := hinv
      refine .formats ⟨⟨disk.number, index⟩, some i, since⟩ ntfs rfl ⟨d, hd, hsystem⟩ ?_
      intro q' hq' hsystem'
      obtain rfl : q = q' := Option.some.inj (hq.symm.trans hq')
      exact hread hempty hsystem'
    · cases hnext
      exact .looks
  · cases hnext

/-! ## What has been read stays true enough -/

theorem Overtaken.mono {k k' : Nat} {f : Formatting} (h : Overtaken formats k f)
    (hformats : formats <+: formats') (hk : k ≤ k') : Overtaken formats' k' f := by
  obtain ⟨j, g, hj, hsince, hlt, hg⟩ := h
  obtain ⟨rest, rfl⟩ := hformats
  refine ⟨j, g, ?_, hsince, by omega, hg⟩
  rw [List.getElem?_append_left (List.getElem?_eq_some_iff.mp hj).1, hj]

theorem Reported.keep {volume : DataVolume} (h : Reported disks volume)
    (hdisks : SameDisks disks disks') (hformatted : KeepsFormatted disks disks') :
    Reported disks' volume := by
  obtain ⟨n, index, d, q, hnumber, hd, hsystem, hsize, hq, hbasic, hfile⟩ := h
  obtain ⟨d', hd', hsystem', hbytes⟩ := hdisks n d hd
  obtain ⟨q', hq', hbasic', hfile'⟩ := hformatted _ q hq
  exact ⟨n, index, d', q', hnumber, hd', hsystem'.trans hsystem, hbytes ▸ hsize, hq',
    hbasic'.trans hbasic, hfile' hfile⟩

theorem ScriptFacts.keep (h : ScriptFacts disks script) (hdisks : SameDisks disks disks')
    (hformatted : KeepsFormatted disks disks') : ScriptFacts disks' script where
  start := h.start
  data := by
    intro d hd
    obtain ⟨d', hd', hsystem, hbytes⟩ := h.data d hd
    obtain ⟨d'', hd'', hsystem', hbytes'⟩ := hdisks d.number d' hd'
    exact ⟨d'', hd'', hsystem'.trans hsystem, hbytes'.trans hbytes⟩
  volumes := fun volume hvolume => (h.volumes volume hvolume).keep hdisks hformatted
  distinct := h.distinct

theorem ScriptFacts.goesOn (h : ScriptFacts disks script) {command : DiskCommand}
    (hcommand : command ≠ .list) : ScriptFacts disks { script with command } :=
  { h with start := fun hlist => absurd hlist hcommand }

/-- What the `i`-th script has read, where volumes are formatted by others only. -/
theorem CommandInv.keep {n : Nat} {command : DiskCommand}
    (h : CommandInv disks formats i n command) (hformatted : KeepsFormatted disks disks')
    (hformats : formats <+: formats')
    (hothers : ∀ place q q', partitionAt disks place = some q → q.volume.fileSystem = "" →
      partitionAt disks' place = some q' → q'.volume.fileSystem ≠ "" →
      ∃ g, formats'[formats.length]? = some g ∧ g.place = place ∧ g.script ≠ some i) :
    CommandInv disks' formats' i n command := by
  cases command with
  | getVolume index letter =>
    obtain ⟨q, hq, hbasic⟩ := h
    obtain ⟨q', hq', hbasic', -⟩ := hformatted _ q hq
    exact ⟨q', hq', hbasic'.trans hbasic⟩
  | formatVolume index letter volume since =>
    obtain ⟨hsince, q, hq, hbasic, hread, hovertaken⟩ := h
    obtain ⟨q', hq', hbasic', hfile⟩ := hformatted _ q hq
    have hlength := hformats.length_le
    refine ⟨hsince.trans hlength, q', hq', hbasic'.trans hbasic, fun hv => hfile (hread hv), ?_⟩
    intro hempty hq'file
    by_cases hqfile : q.volume.fileSystem = ""
    · obtain ⟨g, hg, hplace, hscript⟩ := hothers _ q q' hq hqfile hq' hq'file
      have hlt := (List.getElem?_eq_some_iff.mp hg).1
      exact ⟨formats.length, g, hg, hsince, hlt, hplace, hscript⟩
    · exact (hovertaken hempty hqfile).mono hformats hlength
  | _ => trivial

theorem CommandInv.keepsFiles {n : Nat} {command : DiskCommand}
    (h : CommandInv disks formats i n command) (hfiles : KeepsFiles disks disks') :
    CommandInv disks' formats i n command := by
  refine h.keep hfiles.keepsFormatted List.prefix_rfl ?_
  intro place q q' hq hempty hq' hfile
  obtain ⟨q'', hq'', -, hsystem, -⟩ := hfiles place q hq
  obtain rfl : q'' = q' := Option.some.inj (hq''.symm.trans hq')
  exact absurd (hsystem.trans hempty) hfile

theorem CommandInv.format {n : Nat} {command : DiskCommand}
    (h : CommandInv disks formats i n command) (f : Formatting) (hscript : f.script ≠ some i)
    {volume : GuestVolume} (hvolume : volume.fileSystem ≠ "") :
    CommandInv (format f.place volume disks) (formats ++ [f]) i n command := by
  refine h.keep (keepsFormatted_format hvolume f.place disks) (List.prefix_append _ _) ?_
  intro place q q' hq hempty hq' hfile
  rw [Guest.format, partitionAt_updatePartition] at hq'
  split at hq'
  · rename_i hplace
    exact ⟨f, List.getElem?_concat_length, hplace.symm, hscript⟩
  · obtain rfl : q = q' := Option.some.inj (hq.symm.trans hq')
    exact absurd hempty hfile

theorem CommandInv.effect {n j : Nat} {command : DiskCommand}
    (h : CommandInv disks formats i n command) (hj : j ≠ i)
    (heffect : Effect disks formats j disks' formats') :
    CommandInv disks' formats' i n command := by
  cases heffect with
  | looks => exact h
  | spares m hf => exact h.keepsFiles (hf.keepsFiles m disks)
  | formats f hvolume hscript =>
    refine h.format f ?_ hvolume
    rw [hscript]
    simpa using hj

/-! ## A script's own commands -/

theorem scriptFacts_list (hnodup : (disks.map GuestDisk.number).Nodup) (command : DiskCommand)
    (hcommand : command ≠ .list) :
    ScriptFacts disks { data := dataDisks disks, command, volumes := [] } where
  start := fun h => absurd h hcommand
  data := by
    intro d hd
    obtain ⟨hd, hsystem⟩ := List.mem_filter.mp ((List.mem_insertionSort _).mp hd)
    exact ⟨d, diskAt_of_mem hnodup hd, by simpa using hsystem, rfl⟩
  volumes := fun volume hvolume => absurd hvolume List.not_mem_nil
  distinct := by
    have hdata : ((dataDisks disks).map GuestDisk.number).Nodup :=
      ((List.perm_insertionSort _ _).map GuestDisk.number).nodup_iff.mpr
        (hnodup.sublist (List.filter_sublist.map _))
    have hcast := hdata.map (f := fun n : Nat => (n : Int)) fun _ _ => Int.ofNat.inj
    rw [List.map_map] at hcast
    exact hcast

theorem ScriptFacts.report (h : ScriptFacts disks script) {disk : GuestDisk}
    {rest : List GuestDisk} (hdata : script.data = disk :: rest) {volume : GuestVolume}
    (hvolume : Reported disks
      ⟨disk.number, sizeGb disk.bytes, letter, volume.label, volume.fileSystem⟩) :
    ScriptFacts disks (script.report disk rest letter volume) where
  start := fun hlist => absurd hlist (by simp [DiskScript.report])
  data := fun d hd => h.data d (hdata ▸ List.mem_cons_of_mem _ hd)
  volumes := by
    intro v hv
    rcases List.mem_append.mp hv with hv | hv
    · exact h.volumes v hv
    · rw [List.mem_singleton.mp hv]
      exact hvolume
  distinct := by
    have hdistinct := h.distinct
    rw [hdata, List.map_cons] at hdistinct
    simpa [DiskScript.report] using hdistinct

/-- The volume that the loop puts out is the one that the script has read or formatted. -/
theorem ScriptFacts.reported (h : ScriptFacts disks script) {disk : GuestDisk}
    (hdisk : disk ∈ script.data) {index : Nat} {q : GuestPartition}
    (hq : partitionAt disks ⟨disk.number, index⟩ = some q) (hbasic : q.basic = true)
    (hfile : q.volume.fileSystem ≠ "") (label fileSystem : String) :
    Reported disks ⟨disk.number, sizeGb disk.bytes, letter, label, fileSystem⟩ := by
  obtain ⟨d, hd, hsystem, hbytes⟩ := h.data disk hdisk
  exact ⟨disk.number, index, d, q, rfl, hd, hsystem, by rw [hbytes], hq, hbasic, hfile⟩

theorem basic_of_findIdx? {partitions : List GuestPartition} {index : Nat}
    (h : partitions.findIdx? GuestPartition.basic = some index) :
    ∃ q, partitions[index]? = some q ∧ q.basic = true := by
  obtain ⟨hlt, hbasic, -⟩ := List.findIdx?_eq_some_iff_getElem.mp h
  exact ⟨partitions[index], List.getElem?_eq_getElem hlt, hbasic⟩

theorem ScriptFacts.next (h : ScriptFacts disks script)
    (hnodup : (disks.map GuestDisk.number).Nodup)
    (hcommand : ∀ disk rest, script.data = disk :: rest →
      CommandInv disks formats i disk.number script.command)
    (hnext : script.next expected i letter disks formats =
      some (disks', formats', script')) :
    ScriptFacts disks' script' ∧ ∀ disk rest, script'.data = disk :: rest →
      CommandInv disks' formats' i disk.number script'.command := by
  have heffect := h.effect hcommand hnext
  have hkeep := h.keep heffect.sameDisks heffect.keepsFormatted
  unfold DiskScript.next at hnext
  split at hnext
  · rename_i hlist
    have hvolumes := h.start hlist
    dsimp only at hnext
    split at hnext
    · cases hnext
      exact ⟨h.goesOn (by simp), fun _ _ _ => trivial⟩
    · cases hnext
      refine ⟨?_, fun _ _ _ => trivial⟩
      rw [hvolumes]
      exact scriptFacts_list hnodup .setOnline (by simp)
  · cases hnext
    exact ⟨hkeep.goesOn (by simp), fun _ _ _ => trivial⟩
  · cases hnext
    exact ⟨hkeep.goesOn (by simp), fun _ _ _ => trivial⟩
  · -- the disk is read again, and has the same number
    rename_i disk rest _ hdata
    obtain ⟨current, hcurrent, hnext⟩ := Option.map_eq_some_iff.mp hnext
    have hnumber := number_of_diskAt hcurrent
    cases hnext
    refine ⟨⟨fun hlist => absurd hlist (by simp), ?_, hkeep.volumes, ?_⟩, fun _ _ _ => trivial⟩
    · intro d hd
      rcases List.mem_cons.mp hd with rfl | hd
      · obtain ⟨d', hd', hsystem, hbytes⟩ := hkeep.data disk (hdata ▸ List.mem_cons_self)
        obtain ⟨d₀, hd₀, -, hbytes₀⟩ := h.data disk (hdata ▸ List.mem_cons_self)
        obtain rfl : d = d₀ := Option.some.inj (hcurrent.symm.trans hd₀)
        exact ⟨d', hnumber ▸ hd', hsystem, hbytes.trans hbytes₀.symm⟩
      · exact hkeep.data d (hdata ▸ List.mem_cons_of_mem _ hd)
    · have hdistinct := hkeep.distinct
      rw [hdata, List.map_cons, ← hnumber] at hdistinct
      exact hdistinct
  · rename_i disk rest _ hdata
    obtain ⟨current, hcurrent, hnext⟩ := Option.map_eq_some_iff.mp hnext
    split at hnext
    · cases hnext
      exact ⟨h.goesOn (by simp), fun _ _ _ => trivial⟩
    · rename_i index hindex
      cases hnext
      refine ⟨h.goesOn (by simp), ?_⟩
      intro disk' rest' hdata'
      obtain ⟨rfl, rfl⟩ := List.cons.inj (hdata.symm.trans hdata')
      obtain ⟨q, hq, hbasic⟩ := basic_of_findIdx? hindex
      refine ⟨q, ?_, hbasic⟩
      rw [partitionAt, hcurrent]
      exact hq
  · rename_i disk rest _ hdata
    obtain ⟨current, hcurrent, hnext⟩ := Option.map_eq_some_iff.mp hnext
    cases hnext
    refine ⟨hkeep.goesOn (by simp), ?_⟩
    intro disk' rest' hdata'
    obtain ⟨rfl, rfl⟩ := List.cons.inj (hdata.symm.trans hdata')
    refine ⟨newPartition letter, ?_, rfl⟩
    rw [partitionAt, diskAt_updateDisk (spares_addPartition letter).number, if_pos rfl, hcurrent]
    show (current.partitions ++ [newPartition letter])[current.partitions.length]? = _
    rw [List.getElem?_concat_length]
  · rename_i index letter' disk rest hget hdata
    obtain ⟨q, hq, hnext⟩ := Option.map_eq_some_iff.mp hnext
    have hinv := hcommand disk rest hdata
    rw [hget] at hinv
    obtain ⟨q', hq', hbasic⟩ := hinv
    obtain rfl : q = q' := Option.some.inj (hq.symm.trans hq')
    cases hnext
    refine ⟨h.goesOn (by simp), ?_⟩
    intro disk' rest' hdata'
    obtain ⟨rfl, rfl⟩ := List.cons.inj (hdata.symm.trans hdata')
    exact ⟨le_refl _, q, hq, hbasic, id, fun hempty hfile => absurd hempty hfile⟩
  · rename_i index letter' volume since disk rest hformat hdata
    have hinv := hcommand disk rest hdata
    rw [hformat] at hinv
    obtain ⟨-, q, hq, hbasic, hread, -⟩ := hinv
    have hmem : disk ∈ script.data := hdata ▸ List.mem_cons_self
    split at hnext
    · cases hnext
      have hnew : partitionAt (Guest.format ⟨disk.number, index⟩
          { fileSystem := "NTFS", label := newLabel script, files := [] } disks)
          ⟨disk.number, index⟩ =
          some { q with volume := ⟨"NTFS", newLabel script, []⟩ } := by
        rw [Guest.format, partitionAt_updatePartition, if_pos rfl, hq]
        rfl
      have hntfs : "NTFS" ≠ "" := by decide
      exact ⟨hkeep.report hdata (hkeep.reported hmem hnew hbasic hntfs _ _), fun _ _ _ => trivial⟩
    · rename_i hfile
      cases hnext
      exact ⟨h.report hdata (h.reported hmem hq hbasic (hread hfile) _ _), fun _ _ _ => trivial⟩
  · cases hnext

end InfraOps.Guest
