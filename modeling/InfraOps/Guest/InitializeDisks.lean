import InfraOps.Guest.DiskScripts
import InfraOps.Support.Machine

/-!
# Initializing the data disks

`stage_initialize_data_disks` over its retries, while disks are added, people use and format
volumes, and scripts of attempts that the worker has given up may still be running. When a
volume was formatted, and when a file was stored, is not recorded anywhere.
-/

namespace InfraOps.Guest

/-- A file that was stored when `since` volumes had been formatted. -/
structure StoredFile where
  place : Place
  file : String
  since : Nat

inductive DiskAttempt
  | idle
  | running (script left : Nat)
  /-- Before another look at the disks, of `left + 1`. -/
  | waiting (left : Nat)
  | ended (result : Except Raised (List DataVolume))

structure DiskState where
  disks : List GuestDisk
  scripts : List DiskScript := []
  formats : List Formatting := []
  stored : List StoredFile := []
  attempt : DiskAttempt := .idle

inductive DiskEvent
  | attempt
  | again
  | command (i : Nat) (letter : String)
  /-- The script has come to its end, and its output is read. -/
  | finish (stdout : String)
  /-- The script fails, or is stopped. -/
  | stop (exitCode : Int) (stdout : String)
  /-- The worker gives up; the script may go on. -/
  | abandon (error : Raised)
  | hotAdd (disk : GuestDisk)
  | setFlags (n : Nat) (offline readOnly : Bool)
  | store (place : Place) (file : String)
  /-- A person formats a volume. -/
  | reformat (place : Place) (fileSystem label : String)

variable (out : ScriptOutput) (requested : List Int)

/-- The result of a script that has come to its end. -/
def DiskScript.result (script : DiskScript) (stdout : String) : Option CommandResult :=
  match script.command, script.data with
  | .notVisible, _ => some { exitCode := dataDisksNotVisibleExit, stdout }
  | .setOnline, [] =>
    if out.prints script.volumes stdout || stdout == outputUnavailable then
      some { exitCode := 0, stdout }
    else none
  | _, _ => none

def GuestDisk.setFlags (offline readOnly : Bool) (disk : GuestDisk) : GuestDisk :=
  { disk with offline, readOnly }

namespace DiskState

variable (s : DiskState)

def start (left : Nat) : DiskState :=
  { s with scripts := s.scripts ++ [{}], attempt := .running s.scripts.length left }

/-- The loop over `_DATA_DISK_DETECTION_DELAYS`, once a script has ended. -/
def settle (left : Nat) (result : CommandResult) : DiskState :=
  if result.exitCode = dataDisksNotVisibleExit ∧ left ≠ 0 then
    { s with attempt := .waiting (left - 1) }
  else { s with attempt := .ended (readResult out requested result) }

def step : DiskEvent → Option DiskState
  | .attempt =>
    match s.attempt with
    | .idle | .ended _ => if requested = [] then none else some (s.start 5)
    | _ => none
  | .again =>
    match s.attempt with
    | .waiting left => some (s.start left)
    | _ => none
  | .command i letter =>
    s.scripts[i]?.bind fun script =>
      (script.next requested.length i letter s.disks s.formats).map fun after =>
        { s with disks := after.1, formats := after.2.1, scripts := s.scripts.set i after.2.2 }
  | .finish stdout =>
    match s.attempt with
    | .running i left =>
      (s.scripts[i]?.bind (·.result out stdout)).map (s.settle out requested left)
    | _ => none
  | .stop exitCode stdout =>
    match s.attempt with
    | .running _ left =>
      if exitCode = 0 then none else some (s.settle out requested left { exitCode, stdout })
    | _ => none
  | .abandon error =>
    match s.attempt with
    | .running _ _ => some { s with attempt := .ended (.error error) }
    | _ => none
  | .hotAdd disk =>
    if s.disks.any (fun d => d.number == disk.number) then none
    else some { s with disks := s.disks ++ [disk] }
  | .setFlags n offline readOnly =>
    some { s with disks := updateDisk n (GuestDisk.setFlags offline readOnly) s.disks }
  | .store place file =>
    match partitionAt s.disks place with
    | some q =>
      if q.volume.fileSystem = "" then none
      else some { s with
        disks := storeFile place file s.disks
        stored := s.stored ++ [{ place, file, since := s.formats.length }] }
    | none => none
  | .reformat place fileSystem label =>
    if fileSystem = "" then none
    else some { s with
      disks := format place { fileSystem, label, files := [] } s.disks
      formats := s.formats ++ [{ place, script := none, since := s.formats.length }] }

end DiskState

/-- The stage and the guest, where disks have different numbers. -/
def diskMachine : Machine DiskState DiskEvent where
  init s := (s.disks.map GuestDisk.number).Nodup ∧ s.scripts = [] ∧ s.formats = [] ∧
    s.stored = [] ∧ s.attempt = .idle
  step s := s.step out requested

variable {out requested} {disks disks' : List GuestDisk} {formats formats' : List Formatting}
  {script script' : DiskScript} {i : Nat} {letter : String} {s s' : DiskState}

/-! ## The invariant -/

/-- The volume was formatted since the file was stored there: by a person, or by a script that
others had overtaken. -/
def FormattedSince (formats : List Formatting) (w : StoredFile) : Prop :=
  ∃ k f, formats[k]? = some f ∧ w.since ≤ k ∧ f.place = w.place ∧
    (f.script = none ∨ Overtaken formats k f)

theorem FormattedSince.mono {w : StoredFile} (h : FormattedSince formats w)
    (hformats : formats <+: formats') : FormattedSince formats' w := by
  obtain ⟨k, f, hk, hsince, hplace, hwhy⟩ := h
  refine ⟨k, f, ?_, hsince, hplace, hwhy.imp_right fun h => h.mono hformats (le_refl k)⟩
  obtain ⟨rest, rfl⟩ := hformats
  rw [List.getElem?_append_left (List.getElem?_eq_some_iff.mp hk).1, hk]

structure StoredInv (disks : List GuestDisk) (formats : List Formatting) (w : StoredFile) :
    Prop where
  since : w.since ≤ formats.length
  kept : ∃ q, partitionAt disks w.place = some q ∧ q.volume.fileSystem ≠ "" ∧
    (w.file ∈ q.volume.files ∨ FormattedSince formats w)

theorem StoredInv.keepsFiles {w : StoredFile} (h : StoredInv disks formats w)
    (hfiles : KeepsFiles disks disks') : StoredInv disks' formats w where
  since := h.since
  kept := by
    obtain ⟨q, hq, hsystem, hkept⟩ := h.kept
    obtain ⟨q', hq', -, hsystem', hsubset⟩ := hfiles w.place q hq
    exact ⟨q', hq', hsystem'.symm ▸ hsystem, hkept.imp_left fun hfile => hsubset hfile⟩

theorem StoredInv.format {w : StoredFile} (h : StoredInv disks formats w) (f : Formatting)
    {volume : GuestVolume} (hvolume : volume.fileSystem ≠ "")
    (hwhy : f.script = none ∨ ∀ q, partitionAt disks f.place = some q →
      q.volume.fileSystem ≠ "" → Overtaken formats formats.length f) :
    StoredInv (format f.place volume disks) (formats ++ [f]) w where
  since := by
    rw [List.length_append]
    exact Nat.le_add_right_of_le h.since
  kept := by
    obtain ⟨q, hq, hsystem, hkept⟩ := h.kept
    have hformats : formats <+: formats ++ [f] := List.prefix_append _ _
    rw [Guest.format, partitionAt_updatePartition, hq]
    split
    · -- the file is gone, and this formatting is why
      rename_i hplace
      refine ⟨_, rfl, hvolume, .inr ⟨formats.length, f, List.getElem?_concat_length, h.since,
        hplace.symm, hwhy.imp_right fun hread => ?_⟩⟩
      exact (hread q (hplace ▸ hq) hsystem).mono hformats (le_refl _)
    · exact ⟨q, rfl, hsystem, hkept.imp_right fun hsince => hsince.mono hformats⟩

theorem StoredInv.effect {w : StoredFile} (h : StoredInv disks formats w)
    (heffect : Effect disks formats i disks' formats') : StoredInv disks' formats' w := by
  cases heffect with
  | looks => exact h
  | spares n hf => exact h.keepsFiles (hf.keepsFiles n disks)
  | formats f hvolume _ _ hread => exact h.format f hvolume (.inr hread)

def OnDataDisk (disks : List GuestDisk) (f : Formatting) : Prop :=
  ∀ i, f.script = some i → ∃ d, diskAt disks f.place.disk = some d ∧ d.system = false

theorem OnDataDisk.keep {f : Formatting} (h : OnDataDisk disks f)
    (hdisks : SameDisks disks disks') : OnDataDisk disks' f := by
  intro i hi
  obtain ⟨d, hd, hsystem⟩ := h i hi
  obtain ⟨d', hd', hsystem', -⟩ := hdisks _ d hd
  exact ⟨d', hd', hsystem'.trans hsystem⟩

/-- What the stage has returned. -/
structure Returned (requested : List Int) (disks : List GuestDisk) (volumes : List DataVolume) :
    Prop where
  sizes : (volumes.map DataVolume.sizeGb).Perm requested
  distinct : (volumes.map DataVolume.number).Nodup
  reported : ∀ volume ∈ volumes, Reported disks volume

theorem Returned.keep {volumes : List DataVolume} (h : Returned requested disks volumes)
    (hdisks : SameDisks disks disks') (hformatted : KeepsFormatted disks disks') :
    Returned requested disks' volumes :=
  { h with reported := fun volume hvolume => (h.reported volume hvolume).keep hdisks hformatted }

namespace DiskState

variable (requested s) in
structure Inv : Prop where
  nodup : (s.disks.map GuestDisk.number).Nodup
  facts : ∀ (i : Nat) script, s.scripts[i]? = some script → ScriptFacts s.disks script
  command : ∀ (i : Nat) script, s.scripts[i]? = some script → ∀ disk rest,
    script.data = disk :: rest → CommandInv s.disks s.formats i disk.number script.command
  stored : ∀ w ∈ s.stored, StoredInv s.disks s.formats w
  onDataDisk : ∀ f ∈ s.formats, OnDataDisk s.disks f
  ended : ∀ volumes, s.attempt = .ended (.ok volumes) → Returned requested s.disks volumes

/-- What people do to the disks, short of formatting them. -/
theorem Inv.keepsFiles (h : s.Inv requested) (hnodup : (disks.map GuestDisk.number).Nodup)
    (hdisks : SameDisks s.disks disks) (hfiles : KeepsFiles s.disks disks) :
    Inv requested { s with disks } where
  nodup := hnodup
  facts := fun i script hi => (h.facts i script hi).keep hdisks hfiles.keepsFormatted
  command := fun i script hi disk rest hdata =>
    (h.command i script hi disk rest hdata).keepsFiles hfiles
  stored := fun w hw => (h.stored w hw).keepsFiles hfiles
  onDataDisk := fun f hf => (h.onDataDisk f hf).keep hdisks
  ended := fun volumes hended => (h.ended volumes hended).keep hdisks hfiles.keepsFormatted

theorem Inv.start (h : s.Inv requested) (left : Nat) : (s.start left).Inv requested where
  nodup := h.nodup
  facts := by
    intro i script hi
    rcases List.mem_append.mp (List.mem_of_getElem? hi) with hmem | hmem
    · obtain ⟨j, hj⟩ := List.getElem?_of_mem hmem
      exact h.facts j script hj
    · rw [List.mem_singleton.mp hmem]
      exact ⟨fun _ => rfl, fun _ hd => absurd hd List.not_mem_nil,
        fun _ hv => absurd hv List.not_mem_nil, List.nodup_nil⟩
  command := by
    intro i script hi disk rest hdata
    by_cases hlt : i < s.scripts.length
    · rw [DiskState.start, List.getElem?_append_left hlt] at hi
      exact h.command i script hi disk rest hdata
    · rw [DiskState.start, List.getElem?_append_right (by omega)] at hi
      obtain rfl := List.mem_singleton.mp (List.mem_of_getElem? hi)
      cases hdata
  stored := h.stored
  onDataDisk := h.onDataDisk
  ended := fun _ hended => nomatch hended

theorem Inv.command_step (h : s.Inv requested) {script : DiskScript}
    (hi : s.scripts[i]? = some script)
    (hnext : script.next requested.length i letter s.disks s.formats =
      some (disks, formats, script')) :
    Inv requested { s with disks, formats, scripts := s.scripts.set i script' } := by
  have hfacts := h.facts i script hi
  have hcommand := h.command i script hi
  have heffect := hfacts.effect hcommand hnext
  obtain ⟨hfacts', hcommand'⟩ := hfacts.next h.nodup hcommand hnext
  have hset : ∀ (j : Nat) script₁, (s.scripts.set i script')[j]? = some script₁ →
      j = i ∧ script₁ = script' ∨ i ≠ j ∧ s.scripts[j]? = some script₁ := by
    intro j script₁ hj
    rw [List.getElem?_set] at hj
    split at hj
    · rename_i hij
      split at hj
      · exact .inl ⟨hij.symm, (Option.some.inj hj).symm⟩
      · cases hj
    · rename_i hij
      exact .inr ⟨hij, hj⟩
  exact {
    nodup := heffect.numbers ▸ h.nodup
    facts := by
      intro j script₁ hj
      rcases hset j script₁ hj with ⟨-, rfl⟩ | ⟨-, hj⟩
      · exact hfacts'
      · exact (h.facts j script₁ hj).keep heffect.sameDisks heffect.keepsFormatted
    command := by
      intro j script₁ hj disk rest hdata
      rcases hset j script₁ hj with ⟨rfl, rfl⟩ | ⟨hij, hj⟩
      · exact hcommand' disk rest hdata
      · exact (h.command j script₁ hj disk rest hdata).effect hij heffect
    stored := fun w hw => (h.stored w hw).effect heffect
    onDataDisk := by
      intro f hf
      have hsame := heffect.sameDisks
      cases heffect with
      | looks => exact h.onDataDisk f hf
      | spares => exact (h.onDataDisk f hf).keep hsame
      | formats g _ _ hdisk =>
        rcases List.mem_append.mp hf with hf | hf
        · exact (h.onDataDisk f hf).keep hsame
        · rw [List.mem_singleton.mp hf]
          exact OnDataDisk.keep (fun _ _ => hdisk) hsame
    ended := fun volumes hended =>
      (h.ended volumes hended).keep heffect.sameDisks heffect.keepsFormatted }

theorem Inv.reformat (h : s.Inv requested) (f : Formatting) (hscript : f.script = none)
    {volume : GuestVolume} (hvolume : volume.fileSystem ≠ "") :
    Inv requested { s with
      disks := Guest.format f.place volume s.disks
      formats := s.formats ++ [f] } := by
  have hdisks := sameDisks_format f.place volume s.disks
  have hformatted := keepsFormatted_format hvolume f.place s.disks
  exact {
    nodup := (numbers_updatePartition f.place _ s.disks).symm ▸ h.nodup
    facts := fun i script hi => (h.facts i script hi).keep hdisks hformatted
    command := fun i script hi disk rest hdata =>
      (h.command i script hi disk rest hdata).format f (by simp [hscript]) hvolume
    stored := fun w hw => (h.stored w hw).format f hvolume (.inl hscript)
    onDataDisk := by
      intro g hg
      rcases List.mem_append.mp hg with hg | hg
      · exact (h.onDataDisk g hg).keep hdisks
      · rw [List.mem_singleton.mp hg]
        intro i hi
        cases hscript.symm.trans hi
    ended := fun volumes hended => (h.ended volumes hended).keep hdisks hformatted }

theorem spares_setFlags (offline readOnly : Bool) : Spares (GuestDisk.setFlags offline readOnly) :=
  ⟨fun _ => rfl, fun _ => rfl, fun _ => rfl, fun _ => List.prefix_rfl⟩

theorem Inv.attempt (h : s.Inv requested) {attempt : DiskAttempt}
    (hattempt : ∀ volumes, attempt = .ended (.ok volumes) → Returned requested s.disks volumes) :
    Inv requested { s with attempt } :=
  { h with ended := hattempt }

theorem Inv.settle (h : s.Inv requested) (left : Nat) {result : CommandResult}
    (hresult : ∀ volumes, readResult out requested result = .ok volumes →
      Returned requested s.disks volumes) :
    (s.settle out requested left result).Inv requested := by
  unfold DiskState.settle
  split
  · exact h.attempt fun _ hended => nomatch hended
  · exact h.attempt fun volumes hended => hresult volumes (DiskAttempt.ended.inj hended)

/-- The output of a script that has come to its end tells what the script has done. -/
theorem Inv.returned (h : s.Inv requested) {script : DiskScript}
    (hi : s.scripts[i]? = some script) {stdout : String} {result : CommandResult}
    (hresult : script.result out stdout = some result) {volumes : List DataVolume}
    (hread : readResult out requested result = .ok volumes) :
    Returned requested s.disks volumes := by
  obtain ⟨hexit, hparse, hsizes⟩ := readResult_eq_ok out hread
  have hfacts := h.facts i script hi
  unfold DiskScript.result at hresult
  split at hresult
  · cases hresult
    cases hexit
  · split at hresult
    · rename_i hprints
      cases hresult
      rcases Bool.or_eq_true_iff.mp hprints with hprints | hunavailable
      · rw [parseDataVolumes_prints out hprints] at hparse
        obtain rfl := Except.ok.inj hparse
        exact ⟨hsizes, hfacts.distinct.of_append_left, hfacts.volumes⟩
      · rw [eq_of_beq hunavailable, parseDataVolumes_unavailable] at hparse
        cases hparse
    · cases hresult
  · cases hresult

theorem Inv.step {e : DiskEvent} (h : s.Inv requested) (hs : s.step out requested e = some s') :
    s'.Inv requested := by
  cases e with
  | attempt =>
    simp only [DiskState.step] at hs
    split at hs
    · split at hs
      · cases hs
      · cases hs
        exact h.start 5
    · split at hs
      · cases hs
      · cases hs
        exact h.start 5
    · cases hs
  | again =>
    simp only [DiskState.step] at hs
    split at hs
    · cases hs
      exact h.start _
    · cases hs
  | command i letter =>
    obtain ⟨script, hi, hs⟩ := Option.bind_eq_some_iff.mp hs
    obtain ⟨⟨disks, formats, script'⟩, hnext, rfl⟩ := Option.map_eq_some_iff.mp hs
    exact h.command_step hi hnext
  | finish stdout =>
    simp only [DiskState.step] at hs
    split at hs
    · obtain ⟨result, hresult, rfl⟩ := Option.map_eq_some_iff.mp hs
      obtain ⟨script, hi, hresult⟩ := Option.bind_eq_some_iff.mp hresult
      exact h.settle _ fun volumes hread => h.returned hi hresult hread
    · cases hs
  | stop exitCode stdout =>
    simp only [DiskState.step] at hs
    split at hs
    · split at hs
      · cases hs
      · rename_i hexit
        cases hs
        refine h.settle _ fun volumes hread => ?_
        exact absurd (readResult_eq_ok out hread).1 hexit
    · cases hs
  | abandon error =>
    simp only [DiskState.step] at hs
    split at hs
    · cases hs
      exact h.attempt fun _ hended => nomatch hended
    · cases hs
  | hotAdd disk =>
    simp only [DiskState.step] at hs
    split at hs
    · cases hs
    · rename_i hnew
      cases hs
      refine h.keepsFiles ?_ (sameDisks_append disk) (keepsFiles_append disk)
      rw [List.map_append, List.map_singleton, List.nodup_append]
      refine ⟨h.nodup, List.nodup_singleton _, ?_⟩
      intro n hn m hm heq
      obtain ⟨d, hd, rfl⟩ := List.mem_map.mp hn
      rw [List.mem_singleton.mp hm] at heq
      exact hnew (List.any_eq_true.mpr ⟨d, hd, by simpa using heq⟩)
  | setFlags n offline readOnly =>
    cases hs
    have hf := spares_setFlags offline readOnly
    refine h.keepsFiles ?_ (hf.sameDisks n s.disks) (hf.keepsFiles n s.disks)
    exact (numbers_updateDisk hf.number n s.disks).symm ▸ h.nodup
  | store place file =>
    simp only [DiskState.step] at hs
    split at hs
    · rename_i q hq
      split at hs
      · cases hs
      · rename_i hsystem
        cases hs
        have hkeep := h.keepsFiles ((numbers_updatePartition place _ s.disks).symm ▸ h.nodup)
          (sameDisks_updatePartition place _ s.disks) (keepsFiles_storeFile place file s.disks)
        refine { hkeep with stored := fun w hw => ?_ }
        rcases List.mem_append.mp hw with hw | hw
        · exact hkeep.stored w hw
        · rw [List.mem_singleton.mp hw]
          refine ⟨le_refl _, ?_⟩
          rw [storeFile, partitionAt_updatePartition, if_pos rfl, hq]
          exact ⟨_, rfl, hsystem, .inl (List.mem_append_right _ List.mem_cons_self)⟩
    · cases hs
  | reformat place fileSystem label =>
    simp only [DiskState.step] at hs
    split at hs
    · cases hs
    · rename_i hsystem
      cases hs
      exact h.reformat ⟨place, none, s.formats.length⟩ rfl hsystem

theorem inv_of_reachable (h : (diskMachine out requested).Reachable s) : s.Inv requested := by
  refine h.invariant (fun s hs => ?_) fun _ _ _ _ hi _ hs => hi.step hs
  obtain ⟨hnodup, hscripts, hformats, hstored, hattempt⟩ := hs
  exact {
    nodup := hnodup
    facts := by simp [hscripts]
    command := by simp [hscripts]
    stored := by simp [hstored]
    onDataDisk := by simp [hformats]
    ended := by simp [hattempt] }

def oneVolume : DataVolume := ⟨1, 100, "E", "Data1", "NTFS"⟩

def oneVolumeText : String :=
  "[\x7b\"Number\":1,\"SizeGB\":100,\"DriveLetter\":\"E\",\"Label\":\"Data1\"," ++
    "\"FileSystem\":\"NTFS\"\x7d]"

/-- The output of the script where there is one data disk. -/
def oneVolumeOutput : ScriptOutput where
  loads line := if line = oneVolumeText then some (.arr [volumeJson oneVolume]) else none
  int
    | .num n => .ok n
    | .bool b => .ok (if b then 1 else 0)
    | _ => .error (.valueError "invalid literal for int() with base 10")
  int_num _ := rfl
  str
    | .str text => text
    | .num n => toString n
    | _ => ""
  str_str _ := rfl
  prints volumes stdout := decide (volumes = [oneVolume]) && stdout == oneVolumeText ++ "\r\n"
  loads_prints volumes stdout h := by
    simp only [Bool.and_eq_true, decide_eq_true_eq, beq_iff_eq] at h
    obtain ⟨rfl, rfl⟩ := h
    exact ⟨oneVolumeText, by decide +kernel, by simp⟩
  loads_unavailable := by decide +kernel

/-- A system disk, and a new disk of 100 GB. -/
def oneNewDisk : DiskState where
  disks := [⟨0, 85899345920, true, false, false, false, []⟩,
    ⟨1, 107374182400, false, true, true, true, []⟩]

/-- The worker gives up a script that has read the new volume; the next script formats it. -/
def formattedOnce : List DiskEvent :=
  [.attempt] ++ List.replicate 7 (.command 0 "E") ++ [.abandon (.other "ConnectionError")] ++
    [.attempt] ++ List.replicate 7 (.command 1 "") ++ [.finish (oneVolumeText ++ "\r\n")]

/-- **What the stage returns is there.** The volumes have the requested sizes and different
numbers, and each is on a data disk of its number and size, in a basic partition that has a file
system, whatever has happened to the disks since. -/
theorem ended_returned (h : (diskMachine out requested).Reachable s) {volumes : List DataVolume}
    (hended : s.attempt = .ended (.ok volumes)) :
    (volumes.map DataVolume.sizeGb).Perm requested ∧ (volumes.map DataVolume.number).Nodup ∧
      ∀ volume ∈ volumes, Reported s.disks volume := by
  obtain ⟨hsizes, hdistinct, hreported⟩ := (inv_of_reachable h).ended volumes hended
  exact ⟨hsizes, hdistinct, hreported⟩

def returnedOneVolume (s : DiskState) : Bool :=
  match s.attempt with
  | .ended (.ok volumes) => volumes = [oneVolume]
  | _ => false

theorem ended_returned_replay :
    ∃ s, (diskMachine oneVolumeOutput [100]).Reachable s ∧
      ([oneVolume].map DataVolume.sizeGb).Perm [100] ∧
      ([oneVolume].map DataVolume.number).Nodup ∧
      ∀ volume ∈ [oneVolume], Reported s.disks volume := by
  obtain ⟨s, hs, hp⟩ := Machine.exists_reachable_of_run
    (m := diskMachine oneVolumeOutput [100]) (s := oneNewDisk) (t := formattedOnce)
    (p := returnedOneVolume) ⟨by decide, rfl, rfl, rfl, rfl⟩ (by decide +kernel)
  refine ⟨s, hs, ended_returned hs ?_⟩
  unfold returnedOneVolume at hp
  split at hp
  · rename_i volumes hended
    obtain rfl : volumes = [oneVolume] := by simpa using hp
    exact hended
  · cases hp

end DiskState

end InfraOps.Guest
